/-!
Punycode: any text in ASCII. The characters in ASCII stand in front, and the others follow as
numbers. Each number is the distance between two insertions: the others are inserted in the order
of their code points, those of one code point from left to right, and all pairs of a code point
and a place are counted in that order. A number has its lowest digit in front; a digit below the
threshold of its place ends it, and thresholds adapt to the numbers so far.
-/

namespace ReconChat.Text.Punycode

def base : Nat := 36

/-- The value of a digit: letters count from 0, decimal digits from 26. -/
def digitValue? (char : Char) : Option Nat :=
  if char.isLower then some (char.toNat - 97)
  else if char.isUpper then some (char.toNat - 65)
  else if char.isDigit then some (char.toNat - 22)
  else none

def digitChar (value : Nat) : Char := Char.ofNat (if value < 26 then 97 + value else 22 + value)

/-- The least digit that does not end a number, by its place, which is a multiple of the base. -/
def threshold (bias place : Nat) : Nat := min 26 (max 1 (place - bias))

theorem threshold_pos (bias place : Nat) : 0 < threshold bias place := by
  unfold threshold; omega

def scaledDown (distance : Nat) : Nat × Nat :=
  if distance ≤ 455 then (distance, 0)
  else
    let (small, steps) := scaledDown (distance / 35)
    (small, steps + 1)
termination_by distance

/-- The bias after an insertion by which the text came to have a given length. -/
def adapt (isFirst : Bool) (distance length : Nat) : Nat :=
  let damped := distance / if isFirst then 700 else 2
  let (small, steps) := scaledDown (damped + damped / length)
  base * steps + base * small / (small + 38)

def writeNumber (bias place value : Nat) : List Char :=
  let least := threshold bias place
  if value < least then [digitChar value]
  else
    digitChar (least + (value - least) % (base - least)) ::
      writeNumber bias (place + base) ((value - least) / (base - least))
termination_by value
decreasing_by
  have := threshold_pos bias place
  exact Nat.lt_of_le_of_lt (Nat.div_le_self _ _) (by omega)

/-- The next insertion, without its character: a code point and a place, and the text so far. -/
structure Position where
  code : Nat
  place : Nat
  length : Nat
  bias : Nat
deriving DecidableEq

def Position.start (length : Nat) : Position := ⟨0x80, 0, length, 72⟩

/-- The position after an insertion. Only the first insertion starts at place zero. -/
def Position.next (position : Position) (code place distance : Nat) : Position :=
  ⟨code, place + 1, position.length + 1,
    adapt (position.place = 0) distance (position.length + 1)⟩

def isAscii (char : Char) : Bool := char.toNat < 0x80

/-- Code points outside ASCII, each with the number of characters in front of it that are there
when it is inserted. The characters so far are given in any order. -/
def insertions (before : List Char) : List Char → List (Nat × Nat)
  | [] => []
  | char :: rest =>
      let later := insertions (char :: before) rest
      if isAscii char then later else (char.toNat, before.countP (· ≤ char)) :: later

def writeInsertions (position : Position) : List (Nat × Nat) → List Char
  | [] => []
  | (code, place) :: rest =>
      let distance := (code - position.code) * (position.length + 1) + place - position.place
      writeNumber position.bias base distance ++
        writeInsertions (position.next code place distance) rest

def encode (chars : List Char) : List Char :=
  let plain := chars.filter isAscii
  (if plain.isEmpty then [] else plain ++ ['-']) ++
    writeInsertions (.start plain.length)
      ((insertions [] chars).mergeSort fun first second => first.1 ≤ second.1)

/-- Reads insertions into a text. The number under way has a value and the weight of its next
digit, whose place is given. -/
def readInsertions (position : Position) (text : List Char) (place weight value : Nat) :
    List Char → Option (List Char)
  | [] => if place = base then some text else none
  | char :: rest =>
      match digitValue? char with
      | none => none
      | some digit =>
          let value := value + digit * weight
          let least := threshold position.bias place
          if least ≤ digit then
            readInsertions position text (place + base) (weight * (base - least)) value rest
          else
            let total := position.place + value
            let code := position.code + total / (position.length + 1)
            let index := total % (position.length + 1)
            if code.isValidChar then
              readInsertions (position.next code index value)
                (text.insertIdx index (Char.ofNat code)) base 1 0 rest
            else none

def decode (chars : List Char) : Option (List Char) :=
  let digits := (chars.reverse.takeWhile (· != '-')).reverse
  let plain := chars.take (chars.length - digits.length - 1)
  if plain.isEmpty then readInsertions (.start 0) [] base 1 0 chars
  else if plain.all isAscii then readInsertions (.start plain.length) plain base 1 0 digits
  else none

example : encode "bücher".toList = "bcher-kva".toList := by decide +kernel
example : decode "bcher-kva".toList = some "bücher".toList := by decide +kernel
example : decode "-bcher".toList = none := by decide +kernel

end ReconChat.Text.Punycode

import ReconChat.Json.Quoted

/-!
TOML strings of all four kinds: with escapes or literal, on one line or on several. A string on
several lines drops a line break right after its opening quotation marks and may hold one or two
quotation marks in a row anywhere, its end included. Controls other than tabs and line breaks are
never part of a string. Readers give a value and the text after it.
-/

namespace ReconChat.Toml

def isPrintable (char : Char) : Bool :=
  char = '\t' || (0x20 ≤ char.toNat && char.toNat != 0x7F)

def isBlank (char : Char) : Bool := char = ' ' || char = '\t'

def dropBlanks (chars : List Char) : List Char := chars.dropWhile isBlank

def lineBreak : List Char → Option (List Char)
  | '\n' :: rest => some rest
  | '\r' :: '\n' :: rest => some rest
  | _ => none

def plainEscape (letter : Char) : Option Char :=
  if letter = 'b' then some (Char.ofNat 0x08)
  else if letter = 't' then some '\t'
  else if letter = 'n' then some '\n'
  else if letter = 'f' then some (Char.ofNat 0x0C)
  else if letter = 'r' then some '\r'
  else if letter = '"' then some '"'
  else if letter = '\\' then some '\\'
  else none

def hexNumber (digits : List Char) : Option Nat :=
  digits.foldl
    (fun value digit => do some ((← value) * 16 + (← Json.hexValue digit)))
    (some 0)

def charOfCode (code : Nat) : Option Char :=
  if code < 0xD800 ∨ (0xDFFF < code ∧ code < 0x110000) then some (Char.ofNat code) else none

def readCode (count : Nat) (chars : List Char) : Option (Char × List Char) := do
  let digits := chars.take count
  if digits.length < count then none
  else some (← charOfCode (← hexNumber digits), chars.drop count)

def readEscape : List Char → Option (Char × List Char)
  | 'u' :: rest => readCode 4 rest
  | 'U' :: rest => readCode 8 rest
  | letter :: rest => (plainEscape letter).map fun meant => (meant, rest)
  | [] => none

/-- Reads a string on one line after its opening mark. With escapes, the clock is the text. -/
def readLine (mark : Char) (escapes : Bool) :
    (clock chars done : List Char) → Option (String × List Char)
  | _ :: clock, char :: rest, done =>
      if char = mark then some (String.ofList done.reverse, rest)
      else if escapes && char = '\\' then
        match readEscape rest with
        | some (meant, after) => readLine mark escapes clock after (meant :: done)
        | none => none
      else if isPrintable char then readLine mark escapes clock rest (char :: done)
      else none
  | _, _, _ => none

def dropBlankLines : List Char → List Char
  | '\r' :: '\n' :: rest => dropBlankLines rest
  | char :: rest =>
      if isBlank char || char = '\n' then dropBlankLines rest else char :: rest
  | [] => []

def joinsLines (chars : List Char) : Bool := (lineBreak (dropBlanks chars)).isSome

/-- Reads a string on several lines after its opening marks. A line break counts as a line feed.
Of up to five closing marks the last three end the string. -/
def readLines (mark : Char) (escapes : Bool) :
    (clock chars done : List Char) → Option (String × List Char)
  | _ :: clock, char :: rest, done =>
      if char = mark then
        let marks := (rest.takeWhile (· = mark)).length + 1
        if marks < 3 then readLines mark escapes clock rest (char :: done)
        else if marks ≤ 5 then
          some (String.ofList (List.replicate (marks - 3) mark ++ done).reverse,
            rest.drop (marks - 1))
        else none
      else if escapes && char = '\\' then
        if joinsLines rest then readLines mark escapes clock (dropBlankLines rest) done
        else
          match readEscape rest with
          | some (meant, after) => readLines mark escapes clock after (meant :: done)
          | none => none
      else
        match lineBreak (char :: rest) with
        | some after => readLines mark escapes clock after ('\n' :: done)
        | none =>
            if isPrintable char then readLines mark escapes clock rest (char :: done) else none
  | _, _, _ => none

def readShort : List Char → Option (String × List Char)
  | '"' :: rest => readLine '"' true rest rest []
  | '\'' :: rest => readLine '\'' false rest rest []
  | _ => none

/-- Reads the lines of a string, without a line break at the start. -/
def readLong (mark : Char) (escapes : Bool) (chars : List Char) : Option (String × List Char) :=
  let start := (lineBreak chars).getD chars
  readLines mark escapes start start []

def readString : List Char → Option (String × List Char)
  | '"' :: '"' :: '"' :: rest => readLong '"' true rest
  | '\'' :: '\'' :: '\'' :: rest => readLong '\'' false rest
  | chars => readShort chars

example : readString "\"\"\"\na \\\n  b\"\"\"\"\" c".toList = some ("a b\"\"", " c".toList) := by
  decide +kernel

end ReconChat.Toml

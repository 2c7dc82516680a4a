import ReconChat.Json.Numeral
import ReconChat.Toml.Quoted

/-!
TOML values that are written without marks: booleans, integers, floating-point numbers, dates and
times. Such a word reaches as far as its letters, digits and the five signs go, and must be of
one of these kinds as a whole. Of numbers with a fraction or an exponent and of dates only the
kind is kept; nobody asks for more. Integers have 64 bits.
-/

namespace ReconChat.Toml

inductive Word where
  | bool (value : Bool)
  | integer (value : Int)
  | real
  | moment
deriving DecidableEq

def isWordChar (char : Char) : Bool :=
  char.isAlphanum || char = '+' || char = '-' || char = '_' || char = '.' || char = ':'

def digitValues (radix : Nat) : List Char → Option (List Nat)
  | [] => none
  | [last] => do
      let digit ← Json.hexValue last
      if digit < radix then some [digit] else none
  | first :: '_' :: rest => do
      let digit ← Json.hexValue first
      if digit < radix then (digitValues radix rest).map (digit :: ·) else none
  | first :: rest => do
      let digit ← Json.hexValue first
      if digit < radix then (digitValues radix rest).map (digit :: ·) else none

def ofDigits (radix : Nat) (digits : List Nat) : Nat :=
  digits.foldl (fun value digit => value * radix + digit) 0

def splitSign : List Char → Bool × List Char
  | '-' :: rest => (true, rest)
  | '+' :: rest => (false, rest)
  | chars => (false, chars)

/-- A decimal number has no zero in front of other digits. -/
def hasExtraZero (chars : List Char) : Bool :=
  match chars with
  | '0' :: _ :: _ => true
  | _ => false

def bounded (value : Int) : Option Int :=
  if -0x8000000000000000 ≤ value ∧ value < 0x8000000000000000 then some value else none

def decimalInteger (chars : List Char) : Option Int := do
  let (negative, digits) := splitSign chars
  if hasExtraZero digits then none
  else
    let magnitude := ofDigits 10 (← digitValues 10 digits)
    bounded (if negative then -(magnitude : Int) else magnitude)

def integer : List Char → Option Int
  | '0' :: 'x' :: digits => do bounded (ofDigits 16 (← digitValues 16 digits))
  | '0' :: 'o' :: digits => do bounded (ofDigits 8 (← digitValues 8 digits))
  | '0' :: 'b' :: digits => do bounded (ofDigits 2 (← digitValues 2 digits))
  | chars => decimalInteger chars

def cutAt (isMark : Char → Bool) (chars : List Char) : List Char × Option (List Char) :=
  (chars.takeWhile (!isMark ·),
    match chars.dropWhile (!isMark ·) with
    | [] => none
    | _ :: after => some after)

/-- An exponent: a sign and digits, zeros in front allowed. -/
def exponentValue (chars : List Char) : Option Int := do
  let (negative, digits) := splitSign chars
  let magnitude := ofDigits 10 (← digitValues 10 digits)
  some (if negative then -(magnitude : Int) else magnitude)

/-- Is a decimal too large for a binary64? It is from half a step above the largest one on. -/
def overflows (significand : Nat) (exponent : Int) : Bool :=
  if significand = 0 ∨ exponent < -400 - (Nat.toDigits 10 significand).length then false
  else if 400 < exponent then true
  else
    let limit := 0x3FFFFFFFFFFFFF * Nat.pow 2 970
    if 0 ≤ exponent then limit ≤ significand * Nat.pow 10 exponent.toNat
    else limit * Nat.pow 10 (-exponent).toNat ≤ significand

def isReal (chars : List Char) : Bool :=
  let (negative, unsigned) := splitSign chars
  if unsigned = ['i', 'n', 'f'] ∨ unsigned = ['n', 'a', 'n'] then true
  else
    let (mantissa, exponent) := cutAt (fun char => char = 'e' || char = 'E') unsigned
    let (whole, fraction) := cutAt (· = '.') mantissa
    if exponent.isNone ∧ fraction.isNone then false
    else if hasExtraZero whole then false
    else
      let fractionDigits :=
        match fraction with
        | some digits => digitValues 10 digits
        | none => some []
      match digitValues 10 whole, fractionDigits,
          exponentValue (exponent.getD ['0']) with
      | some front, some back, some power =>
          negative || !overflows (ofDigits 10 (front ++ back)) (power - back.length)
      | _, _, _ => false

def fixedDigits (count low high : Nat) (chars : List Char) : Option (Nat × List Char) :=
  let digits := chars.take count
  if digits.length = count ∧ digits.all Char.isDigit then
    let value := ofDigits 10 (digits.map fun digit => digit.toNat - 48)
    if low ≤ value ∧ value ≤ high then some (value, chars.drop count) else none
  else none

def literally (mark : Char) : List Char → Option (List Char)
  | char :: rest => if char = mark then some rest else none
  | [] => none

def daysIn (year month : Nat) : Nat :=
  if month = 2 then
    if year % 4 = 0 ∧ (year % 100 ≠ 0 ∨ year % 400 = 0) then 29 else 28
  else if month = 4 ∨ month = 6 ∨ month = 9 ∨ month = 11 then 30
  else 31

def afterDate (chars : List Char) : Option (List Char) := do
  let (year, rest) ← fixedDigits 4 0 9999 chars
  let (month, rest) ← fixedDigits 2 1 12 (← literally '-' rest)
  let (day, rest) ← fixedDigits 2 1 31 (← literally '-' rest)
  if day ≤ daysIn year month then some rest else none

def afterFraction (chars : List Char) : Option (List Char) :=
  match chars with
  | '.' :: rest =>
      let digits := rest.takeWhile Char.isDigit
      if digits.isEmpty then none else some (rest.drop digits.length)
  | _ => some chars

def afterTime (chars : List Char) : Option (List Char) := do
  let (_, rest) ← fixedDigits 2 0 23 chars
  let (_, rest) ← fixedDigits 2 0 59 (← literally ':' rest)
  let (_, rest) ← fixedDigits 2 0 60 (← literally ':' rest)
  afterFraction rest

def isOffset : List Char → Bool
  | [] => true
  | ['Z'] => true
  | ['z'] => true
  | sign :: rest =>
      (sign = '+' || sign = '-') &&
        (do
          let (_, rest) ← fixedDigits 2 0 23 rest
          let (_, rest) ← fixedDigits 2 0 59 (← literally ':' rest)
          some rest) == some []

def isOffsetTime (chars : List Char) : Bool :=
  match afterTime chars with
  | some rest => isOffset rest
  | none => false

def isMoment (chars : List Char) : Bool :=
  match afterDate chars with
  | some [] => true
  | some (delimiter :: rest) =>
      (delimiter = 'T' || delimiter = 't' || delimiter = ' ') && isOffsetTime rest
  | none => afterTime chars == some []

def wordOf (chars : List Char) : Option Word :=
  if chars = ['t', 'r', 'u', 'e'] then some (.bool true)
  else if chars = ['f', 'a', 'l', 's', 'e'] then some (.bool false)
  else if isMoment chars then some .moment
  else if isReal chars then some .real
  else (integer chars).map .integer

/-- The characters of the next word. A date goes on after a space when a digit follows. -/
def takeWord (chars : List Char) : List Char × List Char :=
  let word := chars.takeWhile isWordChar
  let rest := chars.dropWhile isWordChar
  match afterDate word, rest with
  | some [], ' ' :: digit :: more =>
      if digit.isDigit then
        (word ++ ' ' :: (digit :: more).takeWhile isWordChar, (digit :: more).dropWhile isWordChar)
      else (word, rest)
  | _, _ => (word, rest)

def readWord (chars : List Char) : Option (Word × List Char) :=
  let (word, rest) := takeWord chars
  (wordOf word).map fun meant => (meant, rest)

example : integer "-9_223_372_036_854_775_808".toList = some (-9223372036854775808) := by
  decide +kernel
example : integer "9223372036854775808".toList = none := by decide +kernel
example : wordOf "1979-05-27 07:32:00.5-07:00".toList = some .moment := by decide +kernel
example : wordOf "2023-02-29".toList = none := by decide +kernel
example : wordOf "1e309".toList = none := by decide +kernel

end ReconChat.Toml

import ReconChat.Decimal.Shortest
import ReconChat.Json.Fault
import ReconChat.Json.Value

/-!
JSON numbers, written and read. An integer that fits 64 bits, unsigned or signed, stays an
integer, except that minus zero is a binary64. All other numbers are a significand below 2^64
times a power of ten: integer digits that no longer fit only scale, fraction digits that no
longer fit are dropped. The power is applied by one multiplication or division of binary64
numbers, so the result need not be the nearest one.
-/

namespace ReconChat.Json

def Number.chars : Number → List Char
  | .integer (.ofNat value) => Nat.toDigits 10 value
  | .integer (.negSucc value) => '-' :: Nat.toDigits 10 (value + 1)
  | .real value => Decimal.text value

def Number.text (number : Number) : String := String.ofList number.chars

def digitValue (char : Char) : Option Nat :=
  if '0' ≤ char ∧ char ≤ '9' then some (char.toNat - 48) else none

def isDigit (char : Char) : Bool := (digitValue char).isSome

def significandBound : Nat := 0x10000000000000000

def exponentBound : Nat := 0x7FFFFFFF

def powerOfTen (exponent : Nat) : Float := Float.ofScientific 1 false exponent

def largestPower : Nat := 308

/-- Scales by a power of ten, `none` when the result is too large. A factor below 10^-308 is
applied in steps, and three steps leave nothing of a 64-bit significand. -/
def scaleBy : (steps : Nat) → Float → Int → Option Float
  | steps, value, exponent =>
      if exponent.natAbs ≤ largestPower then
        if 0 ≤ exponent then
          let scaled := value * powerOfTen exponent.natAbs
          if scaled.isInf then none else some scaled
        else some (value / powerOfTen exponent.natAbs)
      else if value == 0.0 then some value
      else if 0 ≤ exponent then none
      else
        match steps with
        | 0 => some 0.0
        | steps + 1 => scaleBy steps (value / powerOfTen largestPower) (exponent + largestPower)

def realNumber (negative : Bool) (significand : Nat) (exponent : Int) : Option Number :=
  (scaleBy 4 significand.toUInt64.toFloat exponent).map fun magnitude =>
    .real (if negative then -magnitude else magnitude)

/-- An integer with a sign: exact if it fits 64 bits and is not minus zero. -/
def integerNumber (negative : Bool) (magnitude : Nat) : Number :=
  if negative then
    if 0 < magnitude ∧ magnitude ≤ 0x8000000000000000 then .integer (-(Int.ofNat magnitude))
    else .real (-magnitude.toUInt64.toFloat)
  else .integer (Int.ofNat magnitude)

/-- Adds digits to a significand while it stays below its bound; counts the digits added. -/
def gatherDigits : List Char → (significand added : Nat) → Nat × Nat × List Char
  | [], significand, added => (significand, added, [])
  | char :: rest, significand, added =>
      match digitValue char with
      | some digit =>
          let longer := significand * 10 + digit
          if longer < significandBound then gatherDigits rest longer (added + 1)
          else (significand, added, char :: rest)
      | none => (significand, added, char :: rest)

def countDigits : List Char → (counted : Nat) → Nat × List Char
  | [], counted => (counted, [])
  | char :: rest, counted =>
      if isDigit char then countDigits rest (counted + 1) else (counted, char :: rest)

def finishReal (negative : Bool) (significand : Nat) (exponent : Int) (rest : List Char) :
    Result Number :=
  match realNumber negative significand exponent with
  | some number => .ok (number, rest)
  | none => failAt .numberOutOfRange rest

/-- Reads the digits of an exponent after the first. An exponent above the bound makes a
nonzero number too large or zero at once. -/
def exponentDigits (negative : Bool) (significand : Nat) (exponent : Int) (up : Bool) :
    List Char → (power : Nat) → Result Number
  | [], power =>
      finishReal negative significand (if up then exponent + power else exponent - power) []
  | char :: rest, power =>
      match digitValue char with
      | some digit =>
          let longer := power * 10 + digit
          if longer ≤ exponentBound then
            exponentDigits negative significand exponent up rest longer
          else if significand ≠ 0 ∧ up then failAt .numberOutOfRange rest
          else .ok (.real (if negative then -0.0 else 0.0), (countDigits rest 0).2)
      | none =>
          finishReal negative significand (if up then exponent + power else exponent - power)
            (char :: rest)

def exponentPart (negative : Bool) (significand : Nat) (exponent : Int) (chars : List Char) :
    Result Number :=
  let (up, digits) : Bool × List Char :=
    match chars with
    | '+' :: rest => (true, rest)
    | '-' :: rest => (false, rest)
    | _ => (true, chars)
  match digits with
  | [] => failAt .endOfValue []
  | char :: rest =>
      match digitValue char with
      | some digit => exponentDigits negative significand exponent up rest digit
      | none => failOn .invalidNumber digits

def maybeExponent (negative : Bool) (significand : Nat) (exponent : Int) (chars : List Char) :
    Result Number :=
  match chars with
  | 'e' :: rest => exponentPart negative significand exponent rest
  | 'E' :: rest => exponentPart negative significand exponent rest
  | _ => finishReal negative significand exponent chars

def fractionPart (negative : Bool) (significand : Nat) (exponent : Int) (chars : List Char) :
    Result Number :=
  let (longer, added, rest) := gatherDigits chars significand 0
  let (dropped, afterDigits) := countDigits rest 0
  if added + dropped = 0 then
    match afterDigits with
    | [] => failOn .endOfValue []
    | _ => failOn .invalidNumber afterDigits
  else maybeExponent negative longer (exponent - added) afterDigits

/-- Reads what follows the integer digits. `scale` counts the digits that did not fit. -/
def afterInteger (negative : Bool) (significand scale : Nat) (chars : List Char) :
    Result Number :=
  match chars with
  | '.' :: rest => fractionPart negative significand scale rest
  | 'e' :: rest => exponentPart negative significand scale rest
  | 'E' :: rest => exponentPart negative significand scale rest
  | _ =>
      if scale = 0 then .ok (integerNumber negative significand, chars)
      else finishReal negative significand scale chars

def readNumber (negative : Bool) : List Char → Result Number
  | [] => failAt .endOfValue []
  | '0' :: rest =>
      match rest with
      | next :: _ =>
          if isDigit next then failOn .invalidNumber rest else afterInteger negative 0 0 rest
      | [] => afterInteger negative 0 0 []
  | char :: rest =>
      if isDigit char then
        let (significand, _, remaining) := gatherDigits (char :: rest) 0 0
        let (scale, afterDigits) := countDigits remaining 0
        afterInteger negative significand scale afterDigits
      else failOn .invalidNumber (char :: rest)

def skipExponent (chars : List Char) : Result Unit :=
  let digits :=
    match chars with
    | '+' :: rest => rest
    | '-' :: rest => rest
    | _ => chars
  match countDigits digits 0 with
  | (0, _) => failOn .invalidNumber digits
  | (_, rest) => .ok ((), rest)

/-- Passes over a number whose sign has been read, however large it is. -/
def skipNumber (chars : List Char) : Result Unit :=
  let integer : Except Fault (List Char) :=
    match chars with
    | '0' :: next :: rest =>
        if isDigit next then failOn .invalidNumber (next :: rest) else .ok (next :: rest)
    | _ =>
        match countDigits chars 0 with
        | (0, _) => failOn .invalidNumber chars
        | (_, rest) => .ok rest
  match integer with
  | .error fault => .error fault
  | .ok ('.' :: fraction) =>
      match countDigits fraction 0 with
      | (0, rest) => failOn .invalidNumber rest
      | (_, 'e' :: rest) => skipExponent rest
      | (_, 'E' :: rest) => skipExponent rest
      | (_, rest) => .ok ((), rest)
  | .ok ('e' :: rest) => skipExponent rest
  | .ok ('E' :: rest) => skipExponent rest
  | .ok rest => .ok ((), rest)

end ReconChat.Json

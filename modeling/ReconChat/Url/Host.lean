import ReconChat.Url.Domain.Ascii
import ReconChat.Url.Percent

/-!
Hosts of web addresses: domains, IPv4 and IPv6 addresses, each with one written form. A domain
is percent-decoded and put in ASCII and may not hold characters that delimit the parts of a
URL. A domain whose last label is a number must be an IPv4 address.
-/

namespace ReconChat.Url.Host

def isForbidden (char : Char) : Bool :=
  char.toNat ≤ 0x20 || char.toNat = 0x7F || "#/:<>?@[\\]^|%".toList.contains char

/-- Characters that may not even stand in the host of an address of another scheme. -/
def isForbiddenPlain (char : Char) : Bool :=
  char.toNat = 0 || char = '\t' || char = '\n' || char = '\r' || char = ' ' ||
    "#/:<>?@[\\]^|".toList.contains char

def split (separator : Char) (chars : List Char) : List (List Char) :=
  Text.pieces (· == separator) chars

def numeral (radix : Nat) (digits : List Char) : Option Nat :=
  digits.foldl
    (fun value char => do
      let value ← value
      let digit ← hexValue? char
      if digit < radix then some (value * radix + digit) else none)
    (some 0)

/-- A part of an IPv4 address: decimal, octal after a zero, hexadecimal after `0x`. -/
def ipv4Part : List Char → Option Nat
  | [] => none
  | ['0'] => some 0
  | '0' :: 'x' :: digits => numeral 16 digits
  | '0' :: 'X' :: digits => numeral 16 digits
  | '0' :: digits => numeral 8 digits
  | digits => numeral 10 digits

/-- The parts of a dotted name, one empty part at the end left out. -/
def dottedParts (chars : List Char) : List (List Char) :=
  let parts := split '.' chars
  if parts.getLast? = some [] && 1 < parts.length then parts.dropLast else parts

/-- Does a name end in a number, so that it must be an IPv4 address? -/
def endsInNumber (chars : List Char) : Bool :=
  match (dottedParts chars).getLast? with
  | none => false
  | some [] => false
  | some last => last.all Char.isDigit || (last.take 2 = ['0', 'x'] && (ipv4Part last).isSome)

/-- The 32-bit address of parts: each but the last is one byte, the last fills the rest. -/
def ipv4Value : List Nat → (places : Nat) → Option Nat
  | [], _ => none
  | [last], places => if last < Nat.pow 256 places then some last else none
  | part :: rest, places =>
      if part < 256 then
        (ipv4Value rest (places - 1)).map (part * Nat.pow 256 (places - 1) + ·)
      else none

def decimal (value : Nat) : List Char := Nat.toDigits 10 value

def ipv4Text (value : Nat) : List Char :=
  decimal (value / 0x1000000) ++ '.' :: decimal (value / 0x10000 % 256) ++ '.' ::
    decimal (value / 0x100 % 256) ++ '.' :: decimal (value % 256)

def readIpv4 (chars : List Char) : Option (List Char) := do
  let parts := dottedParts chars
  if 4 < parts.length then none
  else
    let values ← parts.mapM ipv4Part
    (ipv4Value values 4).map ipv4Text

def plainByte (chars : List Char) : Option Nat :=
  if chars.isEmpty || !chars.all Char.isDigit || (1 < chars.length && chars.head? = some '0') then
    none
  else (numeral 10 chars).bind fun value => if value < 256 then some value else none

/-- A piece of an IPv6 address: up to four hexadecimal digits, or an IPv4 address as two
pieces at the very end. -/
def ipv6Piece (last : Bool) (chars : List Char) : Option (List Nat) :=
  if last && chars.contains '.' then
    match (split '.' chars).mapM plainByte with
    | some [a, b, c, d] => some [a * 256 + b, c * 256 + d]
    | _ => none
  else if chars.isEmpty || 4 < chars.length then none
  else (numeral 16 chars).map fun value => [value]

def ipv6Run (final : Bool) : List (List Char) → Option (List Nat)
  | [] => some []
  | piece :: rest => do
      let values ← ipv6Piece (final && rest.isEmpty) piece
      let others ← ipv6Run final rest
      some (values ++ others)

def splitDouble : List Char → Option (List Char × List Char)
  | ':' :: ':' :: rest => some ([], rest)
  | char :: rest => (splitDouble rest).map fun (before, after) => (char :: before, after)
  | [] => none

def ipv6Side (final : Bool) (chars : List Char) : Option (List Nat) :=
  if chars.isEmpty then some [] else ipv6Run final (split ':' chars)

/-- The eight pieces of an IPv6 address; a double colon stands for at least one zero. -/
def ipv6Pieces (chars : List Char) : Option (List Nat) :=
  match splitDouble chars with
  | some (before, after) => do
      let left ← ipv6Side false before
      let right ← ipv6Side true after
      if left.length + right.length < 8 then
        some (left ++ List.replicate (8 - left.length - right.length) 0 ++ right)
      else none
  | none => do
      let pieces ← ipv6Side true chars
      if pieces.length = 8 then some pieces else none

def zerosAhead (pieces : List Nat) : Nat := (pieces.takeWhile (· = 0)).length

/-- Start and length of the first longest run of at least two zeros. -/
def longestZeros (pieces : List Nat) : Option (Nat × Nat) :=
  (List.range pieces.length).foldl
    (fun best start =>
      let run := zerosAhead (pieces.drop start)
      match best with
      | some (_, length) => if length < run then some (start, run) else best
      | none => if 1 < run then some (start, run) else none)
    none

def hexText (value : Nat) : List Char := Nat.toDigits 16 value

/-- An IPv6 address as written: the first longest run of zeros is a double colon. -/
def ipv6Text (pieces : List Nat) : List Char :=
  let joined (run : List Nat) : List Char := List.intercalate [':'] (run.map hexText)
  match longestZeros pieces with
  | some (start, length) =>
      joined (pieces.take start) ++ [':', ':'] ++ joined (pieces.drop (start + length))
  | none => joined pieces

def read (chars : List Char) : Option (List Char) :=
  match chars with
  | '[' :: rest =>
      if rest.getLast? = some ']' then
        (ipv6Pieces rest.dropLast).map fun pieces => '[' :: ipv6Text pieces ++ [']']
      else none
  | _ => do
      let domain ← Domain.toAscii? (Text.Utf8.decodeLossy (percentDecode chars)).toList
      if domain.isEmpty || domain.any isForbidden then none
      else if endsInNumber domain then readIpv4 domain
      else some domain

def readPlain (chars : List Char) : Option (List Char) :=
  match chars with
  | '[' :: _ => read chars
  | _ => if chars.any isForbiddenPlain then none else some (encodeSet inControlSet chars)

end ReconChat.Url.Host

import ReconChat.Text.Utf8

/-!
Percent-encoding. Each part of a URL has a set of characters that are written as the percent
signs and upper-case hexadecimal digits of their UTF-8 bytes. A percent sign itself is in none
of the sets, so that what is already encoded stays as it is.
-/

namespace ReconChat.Url

def upperHex (digit : Nat) : Char :=
  if digit < 10 then Char.ofNat (48 + digit) else Char.ofNat (55 + digit)

def percentByte (byte : UInt8) : List Char :=
  ['%', upperHex (byte.toNat / 16), upperHex (byte.toNat % 16)]

def percentChar (char : Char) : List Char := (Text.Utf8.encodeChar char).flatMap percentByte

def encodeSet (inSet : Char → Bool) (chars : List Char) : List Char :=
  chars.flatMap fun char => if inSet char then percentChar char else [char]

def inControlSet (char : Char) : Bool := char.toNat < 0x20 || 0x7E < char.toNat

def inFragmentSet (char : Char) : Bool :=
  inControlSet char || char = ' ' || char = '"' || char = '<' || char = '>' || char = '`'

def inPathSet (char : Char) : Bool :=
  inFragmentSet char || char = '{' || char = '}' || char = '#' || char = '?'

def inUserinfoSet (char : Char) : Bool :=
  inPathSet char || char = '/' || char = ':' || char = ';' || char = '=' || char = '@' ||
    char = '[' || char = '\\' || char = ']' || char = '^' || char = '|'

/-- The query of an address whose scheme is not one of the web's. -/
def inPlainQuerySet (char : Char) : Bool :=
  inControlSet char || char = ' ' || char = '"' || char = '#' || char = '<' || char = '>'

def inQuerySet (char : Char) : Bool := inPlainQuerySet char || char = '\''

def hexValue? (char : Char) : Option Nat :=
  if '0' ≤ char ∧ char ≤ '9' then some (char.toNat - 48)
  else if 'a' ≤ char ∧ char ≤ 'f' then some (char.toNat - 87)
  else if 'A' ≤ char ∧ char ≤ 'F' then some (char.toNat - 55)
  else none

/-- The bytes that percent-encoded text stands for. A percent sign without two hexadecimal
digits stands for itself. -/
def percentDecode : List Char → List UInt8
  | [] => []
  | '%' :: first :: second :: rest =>
      match hexValue? first, hexValue? second with
      | some high, some low => (high * 16 + low).toUInt8 :: percentDecode rest
      | _, _ => 0x25 :: percentDecode (first :: second :: rest)
  | char :: rest => Text.Utf8.encodeChar char ++ percentDecode rest

end ReconChat.Url

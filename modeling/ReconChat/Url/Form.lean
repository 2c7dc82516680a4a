import ReconChat.Url.Percent

/-!
Form-urlencoding of named values, written and read. Letters, digits and `*-._` stand for
themselves, a space is a plus sign, and every other byte is percent-encoded; names and values
are joined by an equals sign and pairs by an ampersand, so that no name or value can end its
pair.
-/

namespace ReconChat.Url.Form

def isPlain (byte : UInt8) : Bool :=
  (0x30 ≤ byte && byte ≤ 0x39) || (0x41 ≤ byte && byte ≤ 0x5A) || (0x61 ≤ byte && byte ≤ 0x7A) ||
    byte = 0x2A || byte = 0x2D || byte = 0x2E || byte = 0x5F

def encodeByte (byte : UInt8) : List Char :=
  if isPlain byte then [Char.ofNat byte.toNat]
  else if byte = 0x20 then ['+']
  else percentByte byte

def encodeText (text : String) : List Char := (Text.Utf8.encode text).flatMap encodeByte

def encodePair (pair : String × String) : List Char :=
  encodeText pair.1 ++ '=' :: encodeText pair.2

def appendPairs (query : List Char) : List (String × String) → List Char
  | [] => query
  | pair :: rest =>
      appendPairs (if query.isEmpty then encodePair pair else query ++ '&' :: encodePair pair) rest

def decodeBytes : List Char → List UInt8
  | [] => []
  | '+' :: rest => 0x20 :: decodeBytes rest
  | '%' :: first :: second :: rest =>
      match hexValue? first, hexValue? second with
      | some high, some low => (high * 16 + low).toUInt8 :: decodeBytes rest
      | _, _ => 0x25 :: decodeBytes (first :: second :: rest)
  | char :: rest => Text.Utf8.encodeChar char ++ decodeBytes rest

def decodeText (chars : List Char) : String := Text.Utf8.decodeLossy (decodeBytes chars)

def splitAt (separator : Char) : List Char → (piece : List Char) → List (List Char)
  | [], piece => [piece.reverse]
  | char :: rest, piece =>
      if char = separator then piece.reverse :: splitAt separator rest []
      else splitAt separator rest (char :: piece)

/-- A name and its value; without an equals sign the value is empty. -/
def decodePair (chars : List Char) : String × String :=
  (decodeText (chars.takeWhile (· ≠ '=')), decodeText ((chars.dropWhile (· ≠ '=')).drop 1))

/-- The pairs of a query; empty pieces do not count. -/
def decode (query : List Char) : List (String × String) :=
  ((splitAt '&' query []).filter (!·.isEmpty)).map decodePair

example : decode "a+b=1%262&%C3%A9=".toList = [("a b", "1&2"), ("é", "")] := by decide +kernel

end ReconChat.Url.Form

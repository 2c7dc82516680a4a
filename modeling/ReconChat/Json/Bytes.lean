import ReconChat.Json.Fault

/-!
JSON texts that arrive as bytes and need not be text throughout. A stray byte stands as an
escaped unpaired surrogate: a string that is read refuses it, a string that is passed over lets
it through, and outside strings it begins no value. Right after a backslash it stands as an
escape that does not exist.
-/

namespace ReconChat.Json

def unpairedEscape : List Char := ['\\', 'u', 'd', 'c', '0', '0']

/-- Spells pieces of bytes as characters, in reverse. The flag tells whether the character before
is a backslash that begins an escape. -/
def spellPieces : List Text.Utf8.Piece → (escaping : Bool) → (done : List Char) → List Char
  | [], _, done => done
  | .char char :: rest, escaping, done =>
      spellPieces rest (char = '\\' && !escaping) (char :: done)
  | .stray bytes :: rest, escaping, done =>
      let after := if escaping then bytes.length - 1 else bytes.length
      let escape := if escaping then [Char.ofNat 0] else []
      spellPieces rest false
        ((List.replicate after unpairedEscape).flatten.reverse ++ escape ++ done)

def charsOfBytes (bytes : List UInt8) : List Char :=
  (spellPieces (Text.Utf8.pieces bytes) false []).reverse

example : charsOfBytes [0x22, 0x5C, 0xFF, 0xC3, 0x22] =
    ['"', '\\', Char.ofNat 0] ++ unpairedEscape ++ ['"'] := by decide

end ReconChat.Json

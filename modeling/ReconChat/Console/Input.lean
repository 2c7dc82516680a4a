import ReconChat.Documents.Files

/-!
Console input as items: lines, and lines that could not be read. A line ends at a line feed, which
is dropped together with a carriage return in front of it; the end of the input ends a line that
is not empty. Bytes that are not UTF-8 spoil their own line only.
-/

namespace ReconChat.Console

inductive Item where
  | line (text : String)
  | failure (words : String)
deriving DecidableEq

namespace Item

def ofBytes (bytes : List UInt8) : Item :=
  match Text.Utf8.decode bytes with
  | some text => .line text
  | none => .failure ReadError.notText.message

/-- The bytes of a finished line, given in reverse, without a carriage return at the end. -/
def finished : List UInt8 → List UInt8
  | 0x0D :: rest => rest.reverse
  | bytes => bytes.reverse

/-- Splits bytes into lines. The bytes of the line so far are kept in reverse. -/
def split : List UInt8 → (done : List UInt8) → List Item
  | [], [] => []
  | [], done => [ofBytes done.reverse]
  | 0x0A :: rest, done => ofBytes (finished done) :: split rest []
  | byte :: rest, done => split rest (byte :: done)

def ofInput (bytes : List UInt8) : List Item := split bytes []

example : ofInput [0x61, 0x0D, 0x0A, 0xFF, 0x0A, 0x62, 0x0D] =
    [.line "a", .failure "stream did not contain valid UTF-8", .line "b\x0d"] := by decide

end Item

end ReconChat.Console

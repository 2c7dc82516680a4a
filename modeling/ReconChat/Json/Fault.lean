import ReconChat.Text.Utf8

/-!
What can be wrong with a JSON text, where, and how it is said. A fault keeps the text that
was still to be read, so that its line and column follow from the whole text alone.
-/

namespace ReconChat.Json

/-- Why a text could not be read as asked. `wrongShape` is a well-formed text of another shape
than the one asked for; it is never put into words. -/
inductive Problem where
  | endOfValue
  | endOfList
  | endOfObject
  | endOfString
  | expectedValue
  | expectedIdent
  | expectedListComma
  | expectedObjectComma
  | expectedColon
  | keyNotString
  | trailingComma
  | trailingCharacters
  | invalidNumber
  | numberOutOfRange
  | invalidEscape
  | loneSurrogate
  | unfinishedSurrogate
  | controlCharacter
  | tooDeep
  | wrongShape
deriving DecidableEq

/-- The three ways in which reading fails: the text stops early, is not JSON, or is JSON of
another shape. -/
inductive Category where
  | incomplete
  | malformed
  | mismatched
deriving DecidableEq

namespace Problem

def category : Problem → Category
  | .endOfValue | .endOfList | .endOfObject | .endOfString => .incomplete
  | .wrongShape => .mismatched
  | _ => .malformed

def message : Problem → String
  | .endOfValue => "EOF while parsing a value"
  | .endOfList => "EOF while parsing a list"
  | .endOfObject => "EOF while parsing an object"
  | .endOfString => "EOF while parsing a string"
  | .expectedValue => "expected value"
  | .expectedIdent => "expected ident"
  | .expectedListComma => "expected `,` or `]`"
  | .expectedObjectComma => "expected `,` or `\x7d`"
  | .expectedColon => "expected `:`"
  | .keyNotString => "key must be a string"
  | .trailingComma => "trailing comma"
  | .trailingCharacters => "trailing characters"
  | .invalidNumber => "invalid number"
  | .numberOutOfRange => "number out of range"
  | .invalidEscape => "invalid escape"
  | .loneSurrogate => "lone leading surrogate in hex escape"
  | .unfinishedSurrogate => "unexpected end of hex escape"
  | .controlCharacter =>
      "control character (\\u0000-\\u001F) found while parsing a string"
  | .tooDeep => "recursion limit exceeded"
  | .wrongShape => "value of another shape"

end Problem

/-- A problem, the text from which it was met, and how many bytes of that text it covers. -/
structure Fault where
  problem : Problem
  rest : List Char
  ahead : Nat

abbrev Result (Given : Type) := Except Fault (Given × List Char)

def failAt {Given : Type} (problem : Problem) (rest : List Char) : Except Fault Given :=
  .error ⟨problem, rest, 0⟩

/-- A fault that covers the first byte of the given text, if there is one. -/
def failOn {Given : Type} (problem : Problem) (rest : List Char) : Except Fault Given :=
  .error ⟨problem, rest, 1⟩

structure Place where
  line : Nat
  column : Nat
deriving DecidableEq

/-- The place after the given number of bytes: lines count from one, columns count the bytes
since the last line feed. -/
def placeAfter : (bytes : Nat) → Place → List Char → Place
  | 0, place, _ => place
  | _ + 1, place, [] => place
  | bytes + 1, place, char :: rest =>
      let width := char.utf8Size
      if bytes + 1 < width then { place with column := place.column + (bytes + 1) }
      else
        placeAfter (bytes + 1 - width)
          (if char = '\n' then ⟨place.line + 1, 0⟩
           else { place with column := place.column + width })
          rest

namespace Fault

def place (fault : Fault) (text : List Char) : Place :=
  placeAfter (Text.Utf8.size text - Text.Utf8.size fault.rest + fault.ahead) ⟨1, 0⟩ text

def message (fault : Fault) (text : List Char) : String :=
  let place := fault.place text
  s!"{fault.problem.message} at line {place.line} column {place.column}"

end Fault

end ReconChat.Json

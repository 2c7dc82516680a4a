/-!
The first object in free text. The span starts at the leftmost opening brace and ends at the
brace that closes it; braces inside string literals do not count. Quotation marks before the
span are ordinary text. The span need not be well-formed JSON.
-/

namespace ReconChat.Selection

inductive Mode where
  | plain
  | quoted
  | escaped
deriving DecidableEq

structure Scan where
  depth : Nat
  mode : Mode
deriving DecidableEq

namespace Scan

def start : Scan := ⟨0, .plain⟩

def step (scan : Scan) (char : Char) : Scan :=
  match scan.mode with
  | .escaped => { scan with mode := .quoted }
  | .quoted =>
      if char = '\\' then { scan with mode := .escaped }
      else if char = '"' then { scan with mode := .plain }
      else scan
  | .plain =>
      if char = '"' then { scan with mode := .quoted }
      else if char = '{' then { scan with depth := scan.depth + 1 }
      else if char = '}' then { scan with depth := scan.depth - 1 }
      else scan

end Scan

/-- Takes characters until no brace is open. What has been taken is kept in reverse. -/
def takeBalanced : Scan → List Char → (taken : List Char) → Option (List Char)
  | _, [], _ => none
  | scan, char :: rest, taken =>
      let next := scan.step char
      if next.depth = 0 then some (char :: taken).reverse
      else takeBalanced next rest (char :: taken)

/-- The span of the first object, if its braces close. -/
def firstObjectChars (chars : List Char) : Option (List Char) :=
  takeBalanced .start (chars.dropWhile (· ≠ '{')) []

def firstObject (text : String) : Option String :=
  (firstObjectChars text.toList).map String.ofList

example : firstObject "a \x7b\"\x7d\" \x7b\x7d\x7d b" = some "\x7b\"\x7d\" \x7b\x7d\x7d" := by
  decide

end ReconChat.Selection

import ReconChat.Json.Numeral
import ReconChat.Json.Quoted

/-!
Writing JSON. The compact form has no white space. The indented form puts every item and every
member on a line of its own, two spaces deeper than its bracket, and leaves empty lists and
objects on one line. Members are written in the order in which the value holds them. Every
writer takes the text that follows, so that nothing is copied twice.
-/

namespace ReconChat.Json

namespace Value

mutual

/-- The compact form in front of what follows it. -/
def write : Value → List Char → List Char
  | .null, tail => 'n' :: 'u' :: 'l' :: 'l' :: tail
  | .bool true, tail => 't' :: 'r' :: 'u' :: 'e' :: tail
  | .bool false, tail => 'f' :: 'a' :: 'l' :: 's' :: 'e' :: tail
  | .number figure, tail => figure.chars ++ tail
  | .string text, tail => writeQuoted text tail
  | .array items, tail => '[' :: writeItems items true (']' :: tail)
  | .object members, tail => '{' :: writeMembers members true ('}' :: tail)

def writeItems : List Value → (first : Bool) → List Char → List Char
  | [], _, tail => tail
  | item :: rest, true, tail => write item (writeItems rest false tail)
  | item :: rest, false, tail => ',' :: write item (writeItems rest false tail)

def writeMembers : List (String × Value) → (first : Bool) → List Char → List Char
  | [], _, tail => tail
  | (name, value) :: rest, true, tail =>
      writeQuoted name (':' :: write value (writeMembers rest false tail))
  | (name, value) :: rest, false, tail =>
      ',' :: writeQuoted name (':' :: write value (writeMembers rest false tail))

end

def newLine (depth : Nat) (tail : List Char) : List Char :=
  '\n' :: (List.replicate (2 * depth) ' ' ++ tail)

mutual

def writeIndented : Value → (depth : Nat) → List Char → List Char
  | .array [], _, tail => '[' :: ']' :: tail
  | .array (item :: items), depth, tail =>
      '[' :: indentItems (item :: items) (depth + 1) true (newLine depth (']' :: tail))
  | .object [], _, tail => '{' :: '}' :: tail
  | .object (member :: members), depth, tail =>
      '{' :: indentMembers (member :: members) (depth + 1) true (newLine depth ('}' :: tail))
  | .null, _, tail => write .null tail
  | .bool value, _, tail => write (.bool value) tail
  | .number figure, _, tail => write (.number figure) tail
  | .string text, _, tail => write (.string text) tail

def indentItems : List Value → (depth : Nat) → (first : Bool) → List Char → List Char
  | [], _, _, tail => tail
  | item :: rest, depth, first, tail =>
      let line := newLine depth (writeIndented item depth (indentItems rest depth false tail))
      if first then line else ',' :: line

def indentMembers :
    List (String × Value) → (depth : Nat) → (first : Bool) → List Char → List Char
  | [], _, _, tail => tail
  | (name, value) :: rest, depth, first, tail =>
      let line := newLine depth (writeQuoted name
        (':' :: ' ' :: writeIndented value depth (indentMembers rest depth false tail)))
      if first then line else ',' :: line

end

def compact (value : Value) : String := String.ofList (value.write [])

def indented (value : Value) : String := String.ofList (value.writeIndented 0 [])

end Value

def quoted (text : String) : String := String.ofList (writeQuoted text [])

end ReconChat.Json

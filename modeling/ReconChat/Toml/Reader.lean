import ReconChat.Toml.Table
import ReconChat.Toml.Word

/-!
Reading TOML documents. A document is a list of lines, each empty, a header, or a key with its
value, and each perhaps with a comment. Arrays may run over several lines, inline tables may not.
Values are nested at most 79 deep and keys have at most 79 parts.
-/

namespace ReconChat.Toml

/-- Levels of nesting, and parts of a key, that a document may have. -/
def nestingLimit : Nat := 79

def dropComment (chars : List Char) : List Char :=
  match chars with
  | '#' :: rest => rest.dropWhile isPrintable
  | _ => chars

/-- Drops blanks, comments and line breaks. The clock is the text. -/
def dropFiller : (clock chars : List Char) → List Char
  | [], chars => chars
  | _ :: clock, chars =>
      let start := dropComment (dropBlanks chars)
      match lineBreak start with
      | some rest => dropFiller clock rest
      | none => start

def isBareChar (char : Char) : Bool := char.isAlphanum || char = '-' || char = '_'

def readKeyPart : List Char → Option (String × List Char)
  | '"' :: rest => readShort ('"' :: rest)
  | '\'' :: rest => readShort ('\'' :: rest)
  | chars =>
      let bare := chars.takeWhile isBareChar
      if bare.isEmpty then none else some (String.ofList bare, chars.dropWhile isBareChar)

/-- Reads the parts of a key, the last one apart. The text begins with the first part. -/
def readKey : (clock : List Char) → (chars : List Char) →
    Option ((List String × String) × List Char)
  | [], _ => none
  | _ :: clock, chars => do
      let (part, rest) ← readKeyPart chars
      match dropBlanks rest with
      | '.' :: after =>
          let ((path, name), last) ← readKey clock (dropBlanks after)
          some ((part :: path, name), last)
      | other => some (([], part), other)

def readShortKey (chars : List Char) : Option ((List String × String) × List Char) := do
  let start := dropBlanks chars
  let ((path, name), rest) ← readKey start start
  if path.length < nestingLimit then some ((path, name), rest) else none

/-- Reads the items of an array after its opening bracket. A comma may follow the last item. -/
def readItems (value : List Char → Option (Node × List Char)) :
    (clock chars : List Char) → (done : List Node) → Option (Node × List Char)
  | [], _, _ => none
  | _ :: clock, chars, done =>
      match dropFiller chars chars with
      | ']' :: rest => some (.array done.reverse, rest)
      | start => do
          let (item, after) ← value start
          match dropFiller after after with
          | ',' :: rest => readItems value clock rest (item :: done)
          | ']' :: rest => some (.array (item :: done).reverse, rest)
          | _ => none

def readPair (value : List Char → Option (Node × List Char)) (chars : List Char) :
    Option ((List String × String × Node) × List Char) := do
  let ((path, name), rest) ← readShortKey chars
  match rest with
  | '=' :: after =>
      let (node, final) ← value (dropBlanks after)
      some ((path, name, node), final)
  | _ => none

/-- Reads the pairs of an inline table; at least one is to come. -/
def readPairs (value : List Char → Option (Node × List Char)) :
    (clock chars : List Char) → Members → Option (Node × List Char)
  | [], _, _ => none
  | _ :: clock, chars, members => do
      let ((path, name, node), rest) ← readPair value chars
      let grown ← members.add path name node
      match dropBlanks rest with
      | ',' :: after => readPairs value clock after grown
      | '}' :: after => some (.inlineTable grown, after)
      | _ => none

def readValue : (depth : Nat) → List Char → Option (Node × List Char)
  | depth, '[' :: rest =>
      match depth with
      | 0 => none
      | depth + 1 => readItems (readValue depth) (' ' :: rest) rest []
  | depth, '{' :: rest =>
      match depth with
      | 0 => none
      | depth + 1 =>
          match dropBlanks rest with
          | '}' :: after => some (.inlineTable [], after)
          | start => readPairs (readValue depth) start start []
  | _, chars =>
      if chars.head? = some '"' ∨ chars.head? = some '\'' then
        (readString chars).map fun (text, rest) => (.string text, rest)
      else
        (readWord chars).map fun (word, rest) =>
          (match word with
            | .bool flag => .bool flag
            | .integer value => .integer value
            | .real => .real
            | .moment => .moment, rest)

def closeHeader (series : Bool) (chars : List Char) : Option (List Char) :=
  match series, chars with
  | true, ']' :: ']' :: rest => some rest
  | false, ']' :: rest => some rest
  | _, _ => none

def readHeader (document : Document) (chars : List Char) : Option (Document × List Char) :=
  let series := chars.head? = some '['
  do
    let ((path, name), rest) ← readShortKey (if series then chars.drop 1 else chars)
    let after ← closeHeader series rest
    let next ← if series then document.extendSeries path name else document.openTable path name
    some (next, after)

def readLineContent (document : Document) (chars : List Char) :
    Option (Document × List Char) :=
  match dropBlanks chars with
  | [] => some (document, [])
  | '[' :: rest => readHeader document rest
  | char :: rest =>
      if char = '#' || (lineBreak (char :: rest)).isSome then some (document, char :: rest)
      else do
        let ((path, name, node), after) ← readPair (readValue nestingLimit) (char :: rest)
        some (← document.add path name node, after)

/-- Reads all lines. The clock is the text with one more character. -/
def readDocument : (clock chars : List Char) → Document → Option Document
  | [], _, _ => none
  | _ :: clock, chars, document => do
      let (next, rest) ← readLineContent document chars
      match dropComment (dropBlanks rest) with
      | [] => some next
      | other => readDocument clock (← lineBreak other) next

/-- The tables and values of a whole text. A byte-order mark in front of it does not count. -/
def parse (text : String) : Option Members :=
  let chars :=
    match text.toList with
    | '\uFEFF' :: rest => rest
    | chars => chars
  (readDocument (' ' :: chars) chars .empty).map Document.root

end ReconChat.Toml

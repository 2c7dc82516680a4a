import ReconChat.Json.Skip

/-!
Reading a text that must have a given shape. A shape reader gives the value without the members
that the shape does not name; names and order of records are those of the shape's fields. The
first fault in reading order counts, and a well-formed text of another shape is the fault
`wrongShape`. Records may also be written as lists of their fields in order.
-/

namespace ReconChat.Json

abbrev Reader := List Char → Result Value

/-- The fault of a value that is not of the kind asked for. A scalar is read first, so that one
that is not well-formed is a fault of its own; brackets are not looked into. -/
def wrongKind (chars : List Char) : Fault :=
  let shape : Fault := ⟨.wrongShape, chars, 0⟩
  let faultOf {Given : Type} : Result Given → Fault
    | .error fault => fault
    | .ok _ => shape
  match chars with
  | [] => ⟨.endOfValue, [], 1⟩
  | char :: rest =>
      if char = 'n' then faultOf (readWord ['u', 'l', 'l'] rest)
      else if char = 't' then faultOf (readWord ['r', 'u', 'e'] rest)
      else if char = 'f' then faultOf (readWord ['a', 'l', 's', 'e'] rest)
      else if char = '"' then faultOf (readQuoted rest [])
      else if char = '-' then faultOf (readNumber true rest)
      else if isDigit char then faultOf (readNumber false chars)
      else if char = '[' ∨ char = '{' then shape
      else ⟨.expectedValue, chars, 1⟩

namespace Shape

def text : Reader := fun chars =>
  match dropSpace chars with
  | '"' :: rest => (readQuoted rest []).map fun (read, after) => (.string read, after)
  | other => .error (wrongKind other)

def count (largest : Nat) : Reader := fun chars =>
  let checked : Result Number → Result Value
    | .error fault => .error fault
    | .ok (.integer value, after) =>
        if 0 ≤ value ∧ value ≤ largest then .ok (.number (.integer value), after)
        else failAt .wrongShape after
    | .ok (.real _, after) => failAt .wrongShape after
  match dropSpace chars with
  | '-' :: rest => checked (readNumber true rest)
  | char :: rest =>
      if isDigit char then checked (readNumber false (char :: rest))
      else .error (wrongKind (char :: rest))
  | [] => .error (wrongKind [])

def nothing : Reader := fun chars =>
  match dropSpace chars with
  | 'n' :: rest => (readWord ['u', 'l', 'l'] rest).map fun (_, after) => (.null, after)
  | other => .error (wrongKind other)

def optional (shape : Reader) : Reader := fun chars =>
  match dropSpace chars with
  | 'n' :: rest => nothing ('n' :: rest)
  | other => shape other

def list (shape : Reader) : Reader := fun chars =>
  match dropSpace chars with
  | '[' :: rest =>
      (foldItems
        (fun items start =>
          match shape start with
          | .error fault => .error fault
          | .ok (item, after) => .ok (item :: items, after))
        rest true [] rest).map fun (items, after) => (.array items.reverse, after)
  | other => .error (wrongKind other)

def textMap : Reader := fun chars =>
  match dropSpace chars with
  | '{' :: rest =>
      (foldMembers
        (fun members name afterName =>
          match readColon afterName with
          | .error fault => .error fault
          | .ok start =>
              match text start with
              | .error fault => .error fault
              | .ok (value, after) => .ok ((name, value) :: members, after))
        rest true [] rest).map fun (members, after) => (.object members.reverse, after)
  | other => .error (wrongKind other)

/-- One of a few words: written as a string, or as an object that gives the word null. Such an
object must begin with a string; nothing else that stands there is looked into. -/
def choice (words : List String) : Reader := fun chars =>
  let known (rest : List Char) : Result String :=
    match readQuoted rest [] with
    | .error fault => .error fault
    | .ok (word, after) => if word ∈ words then .ok (word, after) else failAt .wrongShape after
  match dropSpace chars with
  | [] => failOn .endOfValue []
  | '"' :: rest => (known rest).map fun (word, after) => (.string word, after)
  | '{' :: rest =>
      match dropSpace rest with
      | [] => failOn .endOfObject []
      | '"' :: name =>
          match known name with
          | .error fault => .error fault
          | .ok (word, afterName) =>
              match readColon afterName with
              | .error fault => .error fault
              | .ok start =>
                  match nothing start with
                  | .error fault => .error fault
                  | .ok (_, after) =>
                      match dropSpace after with
                      | '}' :: final => .ok (.string word, final)
                      | [] => failOn .endOfObject []
                      | other => failOn .expectedValue other
      | other => failOn .keyNotString other
  | other => failOn .expectedValue other

/-- A field of a record. A field that may be missing from an object need not be one that may be
missing at the end of a list. -/
structure Field where
  name : String
  shape : Reader
  mayMiss : Bool
  mayMissInList : Bool

def required (name : String) (shape : Reader) : Field := ⟨name, shape, false, false⟩

/-- A field that may be missing everywhere. -/
def defaulted (name : String) (shape : Reader) : Field := ⟨name, shape, true, true⟩

/-- A field that may be missing from an object only. -/
def nullable (name : String) (shape : Reader) : Field := ⟨name, optional shape, true, false⟩

def closeFields (chars : List Char) : Except Fault (List Char) :=
  match dropSpace chars with
  | [] => failOn .endOfList []
  | ']' :: rest => .ok rest
  | ',' :: rest =>
      match dropSpace rest with
      | ']' :: after => failOn .trailingComma (']' :: after)
      | other => failOn .trailingCharacters other
  | other => failOn .trailingCharacters other

def fieldsInOrder : List Field → (first : Bool) → (done : List (String × Value)) → Reader
  | [], _, done, chars => (closeFields chars).map fun after => (.object done.reverse, after)
  | field :: fields, first, done, chars =>
      match listTurn first chars with
      | .error fault => .error fault
      | .ok (.closed rest) =>
          if (field :: fields).all (·.mayMissInList) then .ok (.object done.reverse, rest)
          else failAt .wrongShape rest
      | .ok (.entry start) =>
          match field.shape start with
          | .error fault => .error fault
          | .ok (value, after) => fieldsInOrder fields false ((field.name, value) :: done) after

/-- Reads one member of a record: a known one may stand there only once, an unknown one is
passed over. -/
def member (fields : List Field) (done : List (String × Value)) (name : String)
    (afterName : List Char) : Result (List (String × Value)) :=
  match fields.find? (·.name = name) with
  | some field =>
      if done.any (·.1 = name) then failAt .wrongShape afterName
      else
        match readColon afterName with
        | .error fault => .error fault
        | .ok start =>
            match field.shape start with
            | .error fault => .error fault
            | .ok (value, after) => .ok ((name, value) :: done, after)
  | none =>
      match readColon afterName with
      | .error fault => .error fault
      | .ok start => (skipValue start).map fun (_, after) => (done, after)

def record (fields : List Field) : Reader := fun chars =>
  match dropSpace chars with
  | '{' :: rest =>
      match foldMembers (member fields) rest true [] rest with
      | .error fault => .error fault
      | .ok (done, after) =>
          if fields.all fun field => field.mayMiss || done.any (·.1 = field.name) then
            .ok (.object done.reverse, after)
          else failAt .wrongShape after
  | '[' :: rest => fieldsInOrder fields true [] rest
  | other => .error (wrongKind other)

def whole (shape : Reader) (chars : List Char) : Except Fault Value := complete (shape chars)

def decodeChars {Given : Type} (shape : Reader) (meaning : Value → Option Given)
    (chars : List Char) : Except Fault Given :=
  match whole shape chars with
  | .error fault => .error fault
  | .ok value =>
      match meaning value with
      | some given => .ok given
      | none => failAt .wrongShape []

def decode {Given : Type} (shape : Reader) (meaning : Value → Option Given) (text : String) :
    Except Fault Given :=
  decodeChars shape meaning text.toList

end Shape

structure Tagged where
  tag : String
  body : Value

/-- Reads a record told apart by one of a few tags, in an object under the tag's name or first
in a list. The rest is kept as it is, repeated names included. -/
def readTagged (tagName : String) (tags : List String) (chars : List Char) : Result Tagged :=
  let readTag (start : List Char) : Result String :=
    match Shape.text start with
    | .error fault => .error fault
    | .ok (.string tag, after) =>
        if tag ∈ tags then .ok (tag, after) else failAt .wrongShape after
    | .ok (_, after) => failAt .wrongShape after
  match dropSpace chars with
  | '{' :: rest =>
      let member (state : Option String × List (String × Value)) (name : String)
          (afterName : List Char) : Result (Option String × List (String × Value)) :=
        if name = tagName ∧ state.1.isSome then failAt .wrongShape afterName
        else
          match readColon afterName with
          | .error fault => .error fault
          | .ok start =>
              if name = tagName then
                (readTag start).map fun (tag, after) => ((some tag, state.2), after)
              else
                (readValue (nestingLimit - 1) start).map fun (value, after) =>
                  ((state.1, (name, value) :: state.2), after)
      match foldMembers member rest true (none, []) rest with
      | .error fault => .error fault
      | .ok ((some tag, members), after) => .ok (⟨tag, .object members.reverse⟩, after)
      | .ok ((none, _), after) => failAt .wrongShape after
  | '[' :: rest =>
      let item (state : Option String × List Value) (start : List Char) :
          Result (Option String × List Value) :=
        match state.1 with
        | none => (readTag start).map fun (tag, after) => ((some tag, []), after)
        | some tag =>
            (readValue (nestingLimit - 1) start).map fun (value, after) =>
              ((some tag, value :: state.2), after)
      match foldItems item rest true (none, []) rest with
      | .error fault => .error fault
      | .ok ((some tag, items), after) => .ok (⟨tag, .array items.reverse⟩, after)
      | .ok ((none, _), after) => failAt .wrongShape after
  | other => .error (wrongKind other)

end ReconChat.Json

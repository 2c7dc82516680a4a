import ReconChat.Json.Numeral
import ReconChat.Json.Quoted

/-!
Reading JSON. Lists and objects are folds over their entries, with what to do with an entry
left open; the same two folds serve whole documents here and typed reading elsewhere.
`readDocument` keeps repeated names, `parse` gives the canonical value. Nesting is limited to
127 levels.
-/

namespace ReconChat.Json

def isSpace (char : Char) : Bool :=
  char = ' ' || char = '\t' || char = '\n' || char = '\r'

def dropSpace : List Char → List Char
  | [] => []
  | char :: rest => if isSpace char then dropSpace rest else char :: rest

def readWord : (word : List Char) → List Char → Result Unit
  | [], chars => .ok ((), chars)
  | _ :: _, [] => failAt .endOfValue []
  | letter :: word, char :: rest =>
      if letter = char then readWord word rest else failOn .expectedIdent (char :: rest)

inductive Turn where
  | closed (rest : List Char)
  | entry (start : List Char)

def listTurn (first : Bool) (chars : List Char) : Except Fault Turn :=
  match dropSpace chars with
  | [] => failOn .endOfList []
  | ']' :: rest => .ok (.closed rest)
  | char :: rest =>
      if first then .ok (.entry (char :: rest))
      else if char = ',' then
        match dropSpace rest with
        | [] => failOn .endOfValue []
        | ']' :: after => failOn .trailingComma (']' :: after)
        | start => .ok (.entry start)
      else failOn .expectedListComma (char :: rest)

/-- The next member of an object, its name's opening quotation mark read. -/
def objectTurn (first : Bool) (chars : List Char) : Except Fault Turn :=
  match dropSpace chars with
  | [] => failOn .endOfObject []
  | '}' :: rest => .ok (.closed rest)
  | char :: rest =>
      if first then
        if char = '"' then .ok (.entry rest) else failOn .keyNotString (char :: rest)
      else if char = ',' then
        match dropSpace rest with
        | [] => failOn .endOfValue []
        | '"' :: start => .ok (.entry start)
        | '}' :: after => failOn .trailingComma ('}' :: after)
        | other => failOn .keyNotString other
      else failOn .expectedObjectComma (char :: rest)

def readColon (chars : List Char) : Except Fault (List Char) :=
  match dropSpace chars with
  | [] => failOn .endOfObject []
  | ':' :: rest => .ok rest
  | other => failOn .expectedColon other

/-- Folds over the items of a list after its opening bracket. The clock is the text there,
since every item takes at least one character. -/
def foldItems {State : Type} (item : State → List Char → Result State) :
    (clock : List Char) → (first : Bool) → State → List Char → Result State
  | clock, first, state, chars =>
      match listTurn first chars with
      | .error fault => .error fault
      | .ok (.closed rest) => .ok (state, rest)
      | .ok (.entry start) =>
          match clock with
          | [] => failAt .endOfList []
          | _ :: clock =>
              match item state start with
              | .error fault => .error fault
              | .ok (next, rest) => foldItems item clock false next rest

/-- Folds over the members of an object after its opening brace. A member is given its name and
the text after it, from the colon on. -/
def foldMembers {State : Type} (member : State → String → List Char → Result State) :
    (clock : List Char) → (first : Bool) → State → List Char → Result State
  | clock, first, state, chars =>
      match objectTurn first chars with
      | .error fault => .error fault
      | .ok (.closed rest) => .ok (state, rest)
      | .ok (.entry start) =>
          match clock with
          | [] => failAt .endOfObject []
          | _ :: clock =>
              match readQuoted start [] with
              | .error fault => .error fault
              | .ok (name, afterName) =>
                  match member state name afterName with
                  | .error fault => .error fault
                  | .ok (next, rest) => foldMembers member clock false next rest

def nestingLimit : Nat := 127

def readValue : (depth : Nat) → List Char → Result Value
  | depth, chars =>
      match dropSpace chars with
      | [] => failOn .endOfValue []
      | char :: rest =>
          if char = 'n' then
            (readWord ['u', 'l', 'l'] rest).map fun (_, after) => (.null, after)
          else if char = 't' then
            (readWord ['r', 'u', 'e'] rest).map fun (_, after) => (.bool true, after)
          else if char = 'f' then
            (readWord ['a', 'l', 's', 'e'] rest).map fun (_, after) => (.bool false, after)
          else if char = '"' then
            (readQuoted rest []).map fun (text, after) => (.string text, after)
          else if char = '-' then
            (readNumber true rest).map fun (number, after) => (.number number, after)
          else if isDigit char then
            (readNumber false (char :: rest)).map fun (number, after) => (.number number, after)
          else if char = '[' then
            match depth with
            | 0 => failOn .tooDeep (char :: rest)
            | depth + 1 =>
                (foldItems
                  (fun items start =>
                    match readValue depth start with
                    | .error fault => .error fault
                    | .ok (item, after) => .ok (item :: items, after))
                  rest true [] rest).map fun (items, after) => (.array items.reverse, after)
          else if char = '{' then
            match depth with
            | 0 => failOn .tooDeep (char :: rest)
            | depth + 1 =>
                (foldMembers
                  (fun members name afterName =>
                    match readColon afterName with
                    | .error fault => .error fault
                    | .ok start =>
                        match readValue depth start with
                        | .error fault => .error fault
                        | .ok (value, after) => .ok ((name, value) :: members, after))
                  rest true [] rest).map fun (members, after) => (.object members.reverse, after)
          else failOn .expectedValue (char :: rest)

/-- Accepts a reading that leaves nothing but white space. -/
def complete {Given : Type} (result : Result Given) : Except Fault Given :=
  match result with
  | .error fault => .error fault
  | .ok (given, rest) =>
      match dropSpace rest with
      | [] => .ok given
      | other => failOn .trailingCharacters other

/-- Reads a whole text as one value, its members in the order of the text. -/
def readDocument (text : List Char) : Except Fault Value :=
  complete (readValue nestingLimit text)

def parse (text : String) : Except Fault Value :=
  (readDocument text.toList).map Value.canonical

def parseOrMessage (text : String) : Except String Value :=
  match parse text with
  | .ok value => .ok value
  | .error fault => .error (fault.message text.toList)

end ReconChat.Json

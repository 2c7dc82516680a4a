import ReconChat.Json.Printer
import ReconChat.Json.Shape
import ReconChat.ToolCall.Basic

/-!
Tool calls as JSON text, written and strictly read. A call is an object told apart by its
member `type`; absent answers and reasonings are not written. Reading takes the tag first in a
list too, refuses repeated members and members of the wrong type, and passes over unknown
ones. Unlike the reading of model output it does not trim and does not look at the method.
-/

namespace ReconChat

open Json (Value)

/-- A member that is written only if there is something to write. -/
def presentText (name : String) : Option String → List (String × Value)
  | some text => [(name, .string text)]
  | none => []

def parametersValue (parameters : NameTable String) : Value :=
  .object (parameters.entries.map fun (name, text) => (name, .string text))

def DataCall.members (call : DataCall) : List (String × Value) :=
  [("endpoint", .string call.endpoint), ("method", .string call.method),
    ("parameters", parametersValue call.parameters)] ++ presentText "reasoning" call.reasoning

def DataCall.toValue (call : DataCall) : Value := .object call.members

def ToolCall.toValue : ToolCall → Value
  | .data call => .object (("type", .string "data_call") :: call.members)
  | .documentation answer reasoning =>
      .object (("type", .string "documentation") ::
        (presentText "answer" answer ++ presentText "reasoning" reasoning))

def DataCall.encode (call : DataCall) : String := call.toValue.compact

def ToolCall.encode (call : ToolCall) : String := call.toValue.compact

def textEntries? : List (String × Value) → Option (List (String × String))
  | [] => some []
  | (name, .string text) :: rest => (textEntries? rest).map ((name, text) :: ·)
  | _ :: _ => none

/-- A member that must not be repeated: `none` if it is. -/
def once? (name : String) (members : List (String × Value)) : Option (Option Value) :=
  match members.filter (·.1 = name) with
  | [] => some none
  | [(_, value)] => some (some value)
  | _ => none

def text? : Option Value → Option String
  | some (.string text) => some text
  | _ => none

/-- A text that may be missing or null; `none` if it is something else. -/
def optionalText? : Option Value → Option (Option String)
  | none => some none
  | some .null => some none
  | some (.string text) => some (some text)
  | _ => none

/-- Parameters, empty when missing; `none` if they are not an object of strings. -/
def parameters? : Option Value → Option (NameTable String)
  | none => some .empty
  | some (.object members) => (textEntries? members).map NameTable.ofList
  | _ => none

def DataCall.ofFields (endpoint method parameters reasoning : Option Value) :
    Option DataCall := do
  let endpoint ← text? endpoint
  let method ← text? method
  let parameters ← parameters? parameters
  let reasoning ← optionalText? reasoning
  some ⟨endpoint, method, parameters, reasoning⟩

/-- A data call from a value whose members may stand in a list in order. -/
def DataCall.ofBody : Value → Option DataCall
  | .object members => do
      let endpoint ← once? "endpoint" members
      let method ← once? "method" members
      let parameters ← once? "parameters" members
      let reasoning ← once? "reasoning" members
      ofFields endpoint method parameters reasoning
  | .array items =>
      if items.length ≤ 4 then ofFields items[0]? items[1]? items[2]? items[3]? else none
  | _ => none

def documentationOfBody : Value → Option ToolCall
  | .object members => do
      let answer ← once? "answer" members
      let reasoning ← once? "reasoning" members
      some (.documentation (← optionalText? answer) (← optionalText? reasoning))
  | .array items =>
      if items.length ≤ 2 then do
        some (.documentation (← optionalText? items[0]?) (← optionalText? items[1]?))
      else none
  | _ => none

def ToolCall.ofTagged (tagged : Json.Tagged) : Option ToolCall :=
  if tagged.tag = "data_call" then (DataCall.ofBody tagged.body).map .data
  else documentationOfBody tagged.body

def DataCall.shape : Json.Reader :=
  Json.Shape.record
    [Json.Shape.required "endpoint" Json.Shape.text, Json.Shape.required "method" Json.Shape.text,
      Json.Shape.defaulted "parameters" Json.Shape.textMap,
      Json.Shape.defaulted "reasoning" (Json.Shape.optional Json.Shape.text)]

def DataCall.decode : String → Except Json.Fault DataCall :=
  Json.Shape.decode DataCall.shape DataCall.ofBody

def ToolCall.tags : List String := ["data_call", "documentation"]

def ToolCall.decode (text : String) : Except Json.Fault ToolCall :=
  Json.complete
    (match Json.readTagged "type" ToolCall.tags text.toList with
    | .error fault => .error fault
    | .ok (tagged, rest) =>
        match ToolCall.ofTagged tagged with
        | some call => .ok (call, rest)
        | none => Json.failAt .wrongShape rest)

end ReconChat

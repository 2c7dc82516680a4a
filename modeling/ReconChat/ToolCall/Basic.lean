import ReconChat.Json.Numeral
import ReconChat.NameTable
import ReconChat.Text.Blank

/-!
Tool calls: what the language model decides a query needs. A data call asks Recon for an
endpoint; a documentation call answers from the guide without asking Recon. `ofValue` reads a
loosely shaped object written by the model: the first rule that applies decides, members of
the wrong type count as missing, and whatever is returned is in normal form. A well-formed
call need not name an endpoint that Recon has.
-/

namespace ReconChat

structure DataCall where
  endpoint : String
  method : String
  parameters : NameTable String
  reasoning : Option String
deriving DecidableEq

inductive ToolCall where
  | data (call : DataCall)
  | documentation (answer reasoning : Option String)
deriving DecidableEq

inductive ToolCallError where
  | notAnObject
  | missingEndpoint
  | unsupportedMethod (method : String)
  | invalidParameter (name : String)
deriving DecidableEq

def ToolCallError.message : ToolCallError → String
  | .notAnObject => "tool call is not a JSON object"
  | .missingEndpoint => "tool call has no endpoint"
  | .unsupportedMethod method => s!"unsupported HTTP method '{method}', only GET is allowed"
  | .invalidParameter name => s!"parameter '{name}' must be a string, number or boolean"

namespace ToolCall

def onlyMethod : String := "GET"

def documentationTags : List String := ["DOCUMENTATION_QUERY", "documentation"]

def reasoning : ToolCall → Option String
  | .data call => call.reasoning
  | .documentation _ reasoning => reasoning

/-- The text of the last member of a name, if that member is a string. -/
def textMember (name : String) (members : List (String × Json.Value)) : Option String :=
  (latest? name members).bind Json.Value.string?

/-- What a parameter's value says: a text, nothing at all, or something unusable. -/
inductive Rendered where
  | text (text : String)
  | absent
  | unusable
deriving DecidableEq

/-- Strings stand for themselves, numbers and booleans for their JSON text. -/
def rendered : Json.Value → Rendered
  | .string text => .text text
  | .number number => .text number.text
  | .bool true => .text "true"
  | .bool false => .text "false"
  | .null => .absent
  | .array _ => .unusable
  | .object _ => .unusable

/-- Renders parameters in order; the first unusable one is reported. -/
def renderParameters : List (String × Json.Value) → NameTable String →
    Except ToolCallError (NameTable String)
  | [], table => .ok table
  | (name, value) :: rest, table =>
      match rendered value with
      | .text text => renderParameters rest (table.put name text)
      | .absent => renderParameters rest table
      | .unusable => .error (.invalidParameter name)

/-- The method as compared: without blanks around it, in upper case, GET when none is given. -/
def methodOf (members : List (String × Json.Value)) : String :=
  match textMember "method" members with
  | some method => Text.upperAscii (Text.trim method)
  | none => onlyMethod

/-- The members of the parameters, none if they are not an object. -/
def parameterMembers (members : List (String × Json.Value)) : List (String × Json.Value) :=
  match latest? "parameters" members with
  | some (.object parameters) => parameters
  | _ => []

def dataOfMembers (members : List (String × Json.Value)) : Except ToolCallError ToolCall :=
  match ((textMember "endpoint" members).map Text.trim).bind Text.unlessBlank with
  | none => .error .missingEndpoint
  | some endpoint =>
      let method := methodOf members
      if method = onlyMethod then
        match renderParameters (parameterMembers members) .empty with
        | .error error => .error error
        | .ok parameters =>
            .ok (.data ⟨endpoint, method, parameters, textMember "reasoning" members⟩)
      else .error (.unsupportedMethod method)

/-- Is this a documentation answer, whatever else the object holds? -/
def isDocumentation (members : List (String × Json.Value)) : Bool :=
  match textMember "type" members with
  | some tag => tag ∈ documentationTags
  | none => false

def ofValue : Json.Value → Except ToolCallError ToolCall
  | .object members =>
      if isDocumentation members then
        .ok (.documentation (textMember "answer" members) (textMember "reasoning" members))
      else dataOfMembers members
  | _ => .error .notAnObject

end ToolCall

end ReconChat

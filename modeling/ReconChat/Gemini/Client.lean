import ReconChat.Gemini.Generation
import ReconChat.Http.Exchange
import ReconChat.Json.Printer
import ReconChat.Settings.Basic

/-!
The client of the model service. Each call is one POST with the prompt as the single turn of a
user. The outcome is the text of the generation or the first of five obstacles: no response, a
status other than success, an unreadable body, a blocked prompt, no text.
-/

namespace ReconChat.Gemini

open Http (Order Response Network)

inductive GenerationError where
  | request (failure : Http.Failure)
  | status (code : Nat) (body : String)
  | blocked (reason : String)
  | noText
deriving DecidableEq

def GenerationError.message : GenerationError → String
  | .request failure => s!"gemini request failed: {failure.message}"
  | .status code body => s!"gemini returned HTTP {code}: {body}"
  | .blocked reason => s!"gemini blocked the prompt: {reason}"
  | .noText => "gemini returned no text"

structure Client where
  apiKey : String
  model : String
  target : String
deriving DecidableEq

/-- A model's name without the collection it may be written with. -/
def withoutCollection : List Char → List Char
  | 'm' :: 'o' :: 'd' :: 'e' :: 'l' :: 's' :: '/' :: rest => withoutCollection rest
  | name => name

def modelName (model : String) : String :=
  String.ofList (withoutCollection (Text.trimChars model.toList))

def targetOf (baseUrl model : String) : String :=
  Text.dropTrailingSlashes baseUrl ++ "/v1beta/models/" ++ model ++ ":generateContent"

namespace Client

def ofSettings (settings : GeminiSettings) (apiKey : String) : Client :=
  let model := modelName settings.model
  ⟨apiKey, model, targetOf settings.baseUrl model⟩

def requestBody (prompt : String) : String :=
  (Json.Value.object
    [("contents", .array
      [.object [("role", .string "user"),
        ("parts", .array [.object [("text", .string prompt)]])]])]).compact

def order (client : Client) (prompt : String) : Order :=
  ⟨.post, client.target, none, some client.apiKey, some (requestBody prompt)⟩

def readResponse (response : Response) : Except GenerationError String :=
  if !response.isSuccess then
    .error (.status response.status ((response.wholeBody.map Text.Utf8.decodeLossy).getD ""))
  else
    match response.wholeBody with
    | none => .error (.request .badBody)
    | some body =>
        match Generation.decode body with
        | .error _ => .error (.request .badBody)
        | .ok generation =>
            match generation.blockReason with
            | some reason => .error (.blocked reason)
            | none =>
                let text := generation.text
                if text.isEmpty then .error .noText else .ok text

def readResult : Except Http.Failure Response → Except GenerationError String
  | .error failure => .error (.request failure)
  | .ok response => readResponse response

def generate (client : Client) (prompt : String) :
    StateM Network (Except GenerationError String) := do
  return readResult (← Http.perform (client.order prompt))

end Client

end ReconChat.Gemini

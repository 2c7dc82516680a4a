import ReconChat.Agent.Basic
import ReconChat.ChatService.MediaType
import ReconChat.ChatService.Payload
import ReconChat.Http.Target

/-!
The routes of the chat service: a chat and a health check. The service also runs without an
agent; then its chat fails, whatever it is sent, and its health check says so. A chat request
whose body is refused for any reason counts as one without a query. Browsers may call from
anywhere. Listening and the transport are not described.
-/

namespace ReconChat.ChatService

open Json (Value)

structure Request where
  method : String
  target : String
  headers : List (String × String)
  body : List UInt8

structure Response where
  status : Nat
  headers : List (String × String)
  body : String
deriving DecidableEq

inductive Route where
  | chat
  | health
deriving DecidableEq

/-- The path of a target, which may be a whole address. A text that is no target is taken for a
path as it is. -/
def pathOf (target : String) : String :=
  match Http.Target.parse target.toList with
  | some read => String.ofList read.pathChars
  | none => target

namespace Route

def ofPath (path : String) : Option Route :=
  if path = "/chat" then some .chat
  else if path = "/health" then some .health
  else none

def allowed : Route → String
  | .chat => "POST"
  | .health => "GET,HEAD"

end Route

def version : String := "0.1.0"

def notInitialized : String := "Chatbot agent is not initialized."

def missingQuery : String := "Query field is missing."

def bodyLimit : Nat := 2097152

/-- The first value of a header, its name in any case. -/
def Request.header? (request : Request) (name : String) : Option String :=
  (request.headers.find? fun header => Text.lowerAscii header.1 = name).map (·.2)

def Request.chatRequest? (request : Request) : Option ChatRequest :=
  if !((request.header? "content-type").any MediaType.isJson) then none
  else if bodyLimit < request.body.length then none
  else
    match ChatRequest.decode request.body with
    | .ok chat => some chat
    | .error _ => none

def Request.query? (request : Request) : Option String :=
  (request.chatRequest?.bind (·.query)).bind Text.unlessBlank

def Response.json (status : Nat) (value : Value) : Response :=
  ⟨status, [("content-type", "application/json")], value.compact⟩

def Response.failure (status : Nat) (message : String) : Response :=
  .json status (.object [("error", .string message), ("status", .number (.integer status))])

variable {m : Type → Type} [Monad m]

def respondToChat (agent : Option (Agent m)) (request : Request) : m Response :=
  match agent with
  | none => return .failure 500 notInitialized
  | some agent =>
      match request.query? with
      | none => return .failure 400 missingQuery
      | some query => do
          return .json 200 (ChatResponse.mk (← agent.processQuery query)).toValue

def healthResponse (ready : Bool) : Response :=
  if ready then
    .json 200
      (.object [("message", .string "Chatbot agent is initialized."), ("status", .string "ok"),
        ("version", .string version)])
  else
    .json 503 (.object [("message", .string notInitialized), ("status", .string "error")])

def respondOnRoute (agent : Option (Agent m)) (request : Request) : m Response :=
  match Route.ofPath (pathOf request.target) with
  | none => return ⟨404, [], ""⟩
  | some .chat =>
      if request.method = "POST" then respondToChat agent request
      else return ⟨405, [("allow", Route.chat.allowed)], ""⟩
  | some .health =>
      if request.method = "GET" then return healthResponse agent.isSome
      else if request.method = "HEAD" then return { healthResponse agent.isSome with body := "" }
      else return ⟨405, [("allow", Route.health.allowed)], ""⟩

def sharedHeaders : List (String × String) :=
  [("access-control-allow-origin", "*"),
    ("vary", "origin, access-control-request-method, access-control-request-headers")]

def permission (request : Request) : Response :=
  let allow :=
    match Route.ofPath (pathOf request.target) with
    | some route => [("allow", route.allowed)]
    | none => []
  ⟨200, allow ++
    [("access-control-allow-methods", "*"), ("access-control-allow-headers", "*")], ""⟩

def respond (agent : Option (Agent m)) (request : Request) : m Response := do
  let response ←
    if request.method = "OPTIONS" then pure (permission request)
    else respondOnRoute agent request
  return { response with headers := response.headers ++ sharedHeaders }

end ReconChat.ChatService

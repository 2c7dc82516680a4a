import ReconChat.Documents.Basic
import ReconChat.Gemini.Client
import ReconChat.Prompt
import ReconChat.Recon.Client

/-!
The chatbot: documents, a language model, and a monitoring service. A query takes at most three
steps, strictly in order: the model selects an endpoint, the service gives its data, the model
sums them up. Every obstacle becomes part of the answer; no query fails. Model and service are
given by what they do in some monad, so that the same agent runs on a network and on prepared
answers.
-/

namespace ReconChat

structure LanguageModel (m : Type → Type) where
  /-- Decides which endpoint answers a query, given the schema and the guide. -/
  select : (query schema guide : String) → m (Except ToolCallError (Option ToolCall))
  /-- Sums up the data of an endpoint. -/
  summarize : (query : String) → Json.Value → (endpoint : String) → m String
  /-- Replies to a query that no endpoint answers. -/
  fallback : (query : String) → m String

structure MonitoringService (m : Type → Type) where
  execute : DataCall → m (Except Recon.CallError Json.Value)
  probe : m Bool
  clusterSummary : m (Except Recon.CallError ClusterSummary)

structure Agent (m : Type → Type) where
  documents : Documents
  model : LanguageModel m
  service : MonitoringService m

namespace Agent

/-- The answer to every query when the schema says nothing. -/
def schemaNotLoaded : String :=
  "Error: API schema not loaded. Please check the configuration."

/-- The answer when the model answers from the documentation and gives no answer. -/
def documentationUnavailable : String := "Documentation information not available."

def errorOpening : String := "I encountered an error while processing your request:"

def connectionTestQuery : String := "test connection"

def failureAnswer (words : String) : String := errorOpening ++ " " ++ words

def invalidCallAnswer (error : ToolCallError) : String :=
  failureAnswer ("invalid tool call: " ++ error.message)

variable {m : Type → Type} [Monad m]

def answerFromData (agent : Agent m) (query : String) (call : DataCall) : m String := do
  match ← agent.service.execute call with
  | .error error => return failureAnswer error.message
  | .ok value => agent.model.summarize query value call.endpoint

def answerSelection (agent : Agent m) (query : String) :
    Except ToolCallError (Option ToolCall) → m String
  | .error error => return invalidCallAnswer error
  | .ok none => agent.model.fallback query
  | .ok (some (.documentation answer _)) => return answer.getD documentationUnavailable
  | .ok (some (.data call)) => agent.answerFromData query call

def processQuery (agent : Agent m) (query : String) : m String := do
  if agent.documents.hasSchema then
    agent.answerSelection query
      (← agent.model.select query agent.documents.schema agent.documents.guide)
  else return schemaNotLoaded

def modelStatus (reply : String) : ConnectionStatus :=
  if Text.allBlank reply then .failed "No response from Gemini" else .connected

def testModel (agent : Agent m) : m ConnectionStatus := do
  return modelStatus (← agent.model.fallback connectionTestQuery)

def summaryStatus : Except Recon.CallError ClusterSummary → ConnectionStatus
  | .error error => .failed error.message
  | .ok summary => .connectedWith summary

def testService (agent : Agent m) : m ConnectionStatus := do
  if ← agent.service.probe then return summaryStatus (← agent.service.clusterSummary)
  else return .failed "Cannot connect to Recon service"

def testConnections (agent : Agent m) : m ConnectionReport := do
  let gemini ← agent.testModel
  let recon ← agent.testService
  return ⟨gemini, recon⟩

end Agent

end ReconChat

import ReconChat.Agent.Basic

/-!
The agent on the network. A failed exchange with the model never surfaces as an error: it counts
as no endpoint when selecting, becomes part of the text when summing up, and gives way to an
apology in a fallback. An agent is started from settings and files; the key is looked for before
the documents are.
-/

namespace ReconChat

open Http (Network)

namespace Gemini.Client

/-- The reply to a query outside the chatbot's scope when the model cannot write one. -/
def fallbackApology : String :=
  "I'm sorry, I can only answer questions about the Ozone Recon cluster data. Please ask about containers, keys, datanodes, pipelines, or cluster state."

def selectionOf : Except GenerationError String → Except ToolCallError (Option ToolCall)
  | .ok reply => Selection.parse reply
  | .error _ => .ok none

def summaryOf : Except GenerationError String → String
  | .ok text => text
  | .error error => "I encountered an error while analyzing the data: " ++ error.message

def fallbackOf : Except GenerationError String → String
  | .ok text => text
  | .error _ => fallbackApology

def languageModel (client : Client) : LanguageModel (StateM Network) where
  select query schema guide := do
    return selectionOf (← client.generate (Prompt.selection query schema guide))
  summarize query value endpoint := do
    return summaryOf (← client.generate (Prompt.summary query value endpoint))
  fallback query := do
    return fallbackOf (← client.generate (Prompt.fallback query))

end Gemini.Client

def Recon.Client.monitoringService (client : Client) : MonitoringService (StateM Network) where
  execute := client.execute
  probe := client.probe
  clusterSummary := client.clusterSummary

inductive StartError where
  | missingKey
  | schema (error : SchemaError)
deriving DecidableEq

def SchemaError.causes : SchemaError → List String
  | .notFound path => [(SchemaError.notFound path).message]
  | .unreadable path error => [(SchemaError.unreadable path error).message, error.message]

def StartError.causes : StartError → List String
  | .missingKey => [Settings.missingKeyMessage]
  | .schema error => error.causes

def StartError.message (error : StartError) : String := ": ".intercalate error.causes

namespace Agent

def live (settings : Settings) (apiKey : String) (documents : Documents) :
    Agent (StateM Network) :=
  { documents := documents
    model := (Gemini.Client.ofSettings settings.gemini apiKey).languageModel
    service := (Recon.Client.ofSettings settings.recon).monitoringService }

def start (settings : Settings) (files : Files) : Except StartError (Agent (StateM Network)) :=
  match settings.usableKey with
  | none => .error .missingKey
  | some apiKey =>
      match Documents.load files settings.documents.schemaPath settings.documents.guidePath with
      | .error error => .error (.schema error)
      | .ok documents => .ok (live settings apiKey documents)

end Agent

end ReconChat

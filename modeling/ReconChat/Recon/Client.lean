import ReconChat.Http.Exchange
import ReconChat.Json.Reader
import ReconChat.Recon.ClusterState
import ReconChat.Settings.Basic
import ReconChat.Text.Blank
import ReconChat.ToolCall.Basic

/-!
The client of Recon: GET requests whose parameters go into the query and whose replies are JSON.
A body is read as text before anything is made of its status, so that one that breaks off is a
failed request whatever the status is.
-/

namespace ReconChat.Recon

open Http (Order Response Network)
open Json (Value)

def clusterStateEndpoint : String := "/api/v1/clusterState"

inductive CallError where
  | request (failure : Http.Failure)
  | status (code : Nat) (endpoint body : String)
  | notJson (endpoint words : String)
deriving DecidableEq

def CallError.message : CallError → String
  | .request failure => s!"request to Recon failed: {failure.message}"
  | .status code endpoint body => s!"Recon returned HTTP {code} for {endpoint}: {body}"
  | .notJson endpoint words => s!"Recon returned invalid JSON for {endpoint}: {words}"

structure Client where
  baseUrl : String
deriving DecidableEq

namespace Client

def ofSettings (settings : ReconSettings) : Client := ⟨Text.dropTrailingSlashes settings.baseUrl⟩

/-- Where an endpoint is. A slash in front of it may be left out. -/
def target (client : Client) (endpoint : String) : String :=
  if endpoint.toList.head? = some '/' then client.baseUrl ++ endpoint
  else client.baseUrl ++ "/" ++ endpoint

def dataOrder (client : Client) (endpoint : String) (parameters : NameTable String) : Order :=
  ⟨.get, client.target endpoint, some parameters.entries, none, none⟩

def probeOrder (client : Client) : Order := ⟨.get, client.target "/", none, none, none⟩

def readResponse (endpoint : String) (response : Response) : Except CallError Value :=
  match response.wholeBody with
  | none => .error (.request .badBody)
  | some body =>
      let text := Text.Utf8.decodeLossy body
      if !response.isSuccess then .error (.status response.status endpoint text)
      else
        match Json.parseOrMessage text with
        | .error words => .error (.notJson endpoint words)
        | .ok value => .ok value

def readResult (endpoint : String) : Except Http.Failure Response → Except CallError Value
  | .error failure => .error (.request failure)
  | .ok response => readResponse endpoint response

def fetch (client : Client) (endpoint : String) (parameters : NameTable String) :
    StateM Network (Except CallError Value) := do
  return readResult endpoint (← Http.perform (client.dataOrder endpoint parameters))

def execute (client : Client) (call : DataCall) : StateM Network (Except CallError Value) :=
  client.fetch call.endpoint call.parameters

def answers : Except Http.Failure Response → Bool
  | .error _ => false
  | .ok response => response.isSuccess

def probe (client : Client) : StateM Network Bool := do
  return answers (← Http.perform client.probeOrder)

def readSummary : Except CallError Value → Except CallError ClusterSummary
  | .error error => .error error
  | .ok value =>
      match readClusterState value with
      | .error words => .error (.notJson clusterStateEndpoint words)
      | .ok summary => .ok summary

def clusterSummary (client : Client) : StateM Network (Except CallError ClusterSummary) := do
  return readSummary (← client.fetch clusterStateEndpoint .empty)

end Client

end ReconChat.Recon

import ReconChat.Agent.Basic

/-!
The agent on prepared answers. Its model and its service give the same answers again and again
and count how often each was asked; nothing leaves the program.
-/

namespace ReconChat

structure StepCounts where
  select : Nat
  summarize : Nat
  fallback : Nat
  execute : Nat
deriving DecidableEq

def StepCounts.zero : StepCounts := ⟨0, 0, 0, 0⟩

structure ModelScript where
  selection : Except ToolCallError (Option ToolCall)
  summary : String
  fallback : String

namespace ModelScript

def selecting (selection : Except ToolCallError (Option ToolCall)) : ModelScript :=
  ⟨selection, "Scripted summary.", "I can only answer questions about Ozone Recon."⟩

def endpoint (endpoint : String) : ModelScript :=
  selecting (.ok (some (.data ⟨endpoint, ToolCall.onlyMethod, .empty, none⟩)))

def documentation (answer : Option String) : ModelScript :=
  selecting (.ok (some (.documentation answer (some "scripted"))))

def languageModel (script : ModelScript) : LanguageModel (StateM StepCounts) where
  select _ _ _ := do
    modify fun counts => { counts with select := counts.select + 1 }
    return script.selection
  summarize _ _ _ := do
    modify fun counts => { counts with summarize := counts.summarize + 1 }
    return script.summary
  fallback _ := do
    modify fun counts => { counts with fallback := counts.fallback + 1 }
    return script.fallback

end ModelScript

structure ServiceScript where
  reachable : Bool
  responses : List (String × Json.Value)
  cluster : Option ClusterSummary

namespace ServiceScript

def online : ServiceScript := ⟨true, [], some .empty⟩

def offline : ServiceScript := ⟨false, [], none⟩

def monitoringService (script : ServiceScript) : MonitoringService (StateM StepCounts) where
  execute call := do
    modify fun counts => { counts with execute := counts.execute + 1 }
    return match latest? call.endpoint script.responses with
      | some value => .ok value
      | none => .error (.status 404 call.endpoint "Not Found")
  probe := return script.reachable
  clusterSummary :=
    return match script.cluster with
      | some summary => .ok summary
      | none => .error (.status 503 Recon.clusterStateEndpoint "Service Unavailable")

end ServiceScript

def Agent.scripted (documents : Documents) (model : ModelScript) (service : ServiceScript) :
    Agent (StateM StepCounts) :=
  ⟨documents, model.languageModel, service.monitoringService⟩

end ReconChat

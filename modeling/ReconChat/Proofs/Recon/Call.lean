import Mathlib.Data.List.DropRight
import ReconChat.Proofs.Http.Outcome
import ReconChat.Recon.Client

/-!
The calls of Recon's client as exchanges: one order each, and what the call gives as a function of
its last response. The target of a data call is the base of the settings, a slash and the endpoint.
What server that addresses is not said here.
-/

namespace ReconChat

namespace Text

theorem append_of_drop_trailing_slashes (text : String) :
    ∃ count, text =
      String.ofList ((dropTrailingSlashes text).toList ++ List.replicate count '/') := by
  have whole := List.rdropWhile_append_rtakeWhile (p := (· == '/')) (l := text.toList)
  have slashes : ∀ char ∈ text.toList.rtakeWhile (· == '/'), char = '/' := by
    intro char member
    have slash : (char == '/') = true := List.mem_rtakeWhile_imp (p := (· == '/')) member
    exact beq_iff_eq.1 slash
  refine ⟨(text.toList.rtakeWhile (· == '/')).length, ?_⟩
  rw [← List.eq_replicate_of_mem slashes, dropTrailingSlashes, String.toList_ofList]
  exact String.ofList_toList.symm.trans (congrArg String.ofList whole.symm)

theorem drop_trailing_slashes_append (text : String) (count : Nat) :
    dropTrailingSlashes (text ++ String.ofList (List.replicate count '/')) =
      dropTrailingSlashes text := by
  have slashes : ∀ char ∈ List.replicate count '/', (char == '/') = true := by
    intro char member
    exact beq_iff_eq.2 (List.eq_of_mem_replicate member)
  rw [dropTrailingSlashes, dropTrailingSlashes, String.toList_append, String.toList_ofList,
    List.reverse_append, List.reverse_replicate, List.dropWhile_append_of_pos slashes]

end Text

namespace Recon.Client

open Http (Network Order)

theorem target_below (client : Client) (endpoint : String) :
    ∃ more, client.target endpoint = String.ofList (client.baseUrl.toList ++ '/' :: more) ∧
      ∀ char ∈ more, char ∈ endpoint.toList := by
  rw [target]
  split
  · next slash =>
      obtain ⟨more, whole⟩ := List.head?_eq_some_iff.1 slash
      refine ⟨more, String.toList_injective ?_, ?_⟩
      · rw [String.toList_append, String.toList_ofList, whole]
      · intro char member
        exact whole ▸ List.mem_cons_of_mem _ member
  · refine ⟨endpoint.toList, String.toList_injective ?_, fun _ member => member⟩
    rw [String.toList_append, String.toList_append, List.append_assoc, String.toList_ofList,
      String.toList_ofList, List.singleton_append]

theorem target_slash (client : Client) {endpoint : String}
    (missing : endpoint.toList.head? ≠ some '/') :
    client.target ("/" ++ endpoint) = client.target endpoint := by
  have slash : ("/" ++ endpoint).toList.head? = some '/' := by
    rw [String.toList_append]
    rfl
  rw [target, target, if_pos slash, if_neg missing, String.append_assoc]

/-- The target adds nothing but a slash to the base and the endpoint. -/
theorem not_mem_target {settings : ReconSettings} {endpoint : String} {char : Char}
    (notSlash : char ≠ '/') (base : char ∉ settings.baseUrl.toList)
    (absent : char ∉ endpoint.toList) :
    char ∉ ((ofSettings settings).target endpoint).toList := by
  obtain ⟨more, below, inside⟩ := (ofSettings settings).target_below endpoint
  obtain ⟨count, slashes⟩ := Text.append_of_drop_trailing_slashes settings.baseUrl
  rw [slashes, String.toList_ofList, List.mem_append] at base
  rw [below, String.toList_ofList, List.mem_append, List.mem_cons]
  rintro (inBase | slash | inMore)
  · exact base (.inl inBase)
  · exact notSlash slash
  · exact absent (inside char inMore)

def callOrder (client : Client) (call : DataCall) : Order :=
  client.dataOrder call.endpoint call.parameters

def gives (client : Client) (network : Network) (call : DataCall) :
    Except CallError Json.Value :=
  readResult call.endpoint (network.respond (client.callOrder call))

theorem execute_eq (client : Client) (call : DataCall) (network : Network) :
    client.execute call network =
      (client.gives network call, network.after (client.callOrder call)) := by
  exact Http.perform_then (readResult call.endpoint) (client.callOrder call) network

theorem probe_eq (client : Client) (network : Network) :
    client.probe network =
      (answers (network.respond client.probeOrder), network.after client.probeOrder) :=
  Http.perform_then answers client.probeOrder network

def summaryOrder (client : Client) : Order := client.dataOrder clusterStateEndpoint .empty

theorem cluster_summary_eq (client : Client) (network : Network) :
    client.clusterSummary network =
      (readSummary (readResult clusterStateEndpoint (network.respond client.summaryOrder)),
        network.after client.summaryOrder) := by
  rw [clusterSummary, Http.run_bind, Http.run_pure, fetch, Http.perform_then]
  rfl

theorem request_of_execute {client : Client} {call : DataCall} {network : Network}
    {request : Http.Request}
    (asked : (client.execute call network).2.lastAsked = some request) :
    (client.callOrder call).request = .ok request := by
  rw [execute_eq] at asked
  exact Http.request_of_last_asked asked

end Recon.Client

end ReconChat

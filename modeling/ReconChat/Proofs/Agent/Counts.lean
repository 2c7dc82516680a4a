import ReconChat.Proofs.Agent.Connections
import ReconChat.Proofs.Recon.Counts
import ReconChat.Report.Lines

/-!
Counts on their way from Recon's reply to the lines of a report. A reply is a summary exactly if it
states nine counts; each field of the summary is what its own text says, and each count in a line is
the decimal of the field that the line names. What a report shows of a Recon that is not connected
is left out.
-/

namespace ReconChat

namespace ConnectionReport

def decimalOf : Option UInt64 → String
  | some number => String.ofList (Nat.toDigits 10 number.toNat)
  | none => "?"

theorem shown_count_eq (count : Option UInt64) : shownCount count = decimalOf count := by
  cases count <;> rfl

theorem join_pair (first second : String) : String.join [first, second] = first ++ second := by
  simp [String.join]

section Lines

variable (gemini : ConnectionStatus) (cluster : ClusterSummary) (reply : String)

theorem summary_with_counts :
    (⟨gemini, .connectedWith cluster⟩ : ConnectionReport).summary =
      summaryLines "gemini" gemini ++ ("[ok] Recon: Connected\n     Cluster: " ++
        decimalOf cluster.totalDatanodes ++ " datanodes, " ++
        decimalOf cluster.containers ++ " containers, " ++
        decimalOf cluster.pipelines ++ " pipelines\n") := by
  have name : capitalized "recon" = "Recon" := by decide
  have connected : (ConnectionStatus.connectedWith cluster).isConnected = true := rfl
  rw [summary, services, List.map_cons, List.map_cons, List.map_nil, join_pair]
  dsimp only
  congr 1
  rw [summaryLines, if_pos connected, name]
  simp only [ConnectionStatus.connectedWith, shown_count_eq, toString]
  simp [← String.toList_inj]

theorem details_with_counts :
    (⟨gemini, .connectedWith cluster⟩ : ConnectionReport).details =
      detailLines "gemini" gemini ++ ("\nRECON:\n  Status: Connected\n  Datanodes: " ++
        decimalOf cluster.totalDatanodes ++ " total, " ++
        decimalOf cluster.healthyDatanodes ++ " healthy\n  Containers: " ++
        decimalOf cluster.containers ++ "\n  Pipelines: " ++
        decimalOf cluster.pipelines ++ "\n") := by
  have name : String.ofList ("recon".toList.map Char.toUpper) = "RECON" := by decide
  have connected : (ConnectionStatus.connectedWith cluster).isConnected = true := rfl
  rw [details, services, List.map_cons, List.map_cons, List.map_nil, join_pair]
  dsimp only
  congr 1
  rw [detailLines, if_pos connected, name]
  simp only [ConnectionStatus.connectedWith, shown_count_eq, toString]
  simp [← String.toList_inj]

theorem summary_of_model :
    summaryLines "gemini" (Agent.modelStatus reply) =
      if Text.allBlank reply then "[!!] Gemini: No response from Gemini\n"
      else "[ok] Gemini: Connected\n" := by
  rw [Agent.modelStatus]
  cases Text.allBlank reply <;> rfl

theorem details_of_model :
    detailLines "gemini" (Agent.modelStatus reply) =
      if Text.allBlank reply then "\nGEMINI:\n  Status: No response from Gemini\n"
      else "\nGEMINI:\n  Status: Connected\n" := by
  rw [Agent.modelStatus]
  cases Text.allBlank reply <;> rfl

end Lines

end ConnectionReport

namespace Agent

open Http (Network)
open ConnectionReport (decimalOf)

theorem report_of_probed {gemini : Gemini.Client} {recon : Recon.Client} {documents : Documents}
    {network : Network}
    (probed : Recon.Client.Succeeds ((network.after (testOrder gemini)).respond recon.probeOrder)) :
    ∃ reply, ((ofClients gemini recon documents).testConnections network).1 =
      ⟨modelStatus reply, summaryStatus
        (recon.clusterSummary ((network.after (testOrder gemini)).after recon.probeOrder)).1⟩ := by
  rw [test_connections_eq, modelEntry, serviceEntry,
    if_pos ((Recon.Client.answers_iff _).2 probed), recon.cluster_summary_eq]
  exact ⟨_, rfl⟩

/-- A reply with success and a whole body is a summary exactly if its text states nine counts, and
else it is no JSON of the cluster state. Each count of a summary is the number that its own text is
the decimal of. A report with this summary shows the datanodes, the healthy ones, the containers and
the pipelines by the decimals of these fields, and a connection test that has probed Recon with
success makes such a report. -/
theorem counts_are_shown_as_stated (recon : Recon.Client) {network : Network}
    {response : Http.Response} {body : List UInt8}
    (answered : network.respond recon.summaryOrder = .ok response)
    (success : response.isSuccess = true) (whole : response.wholeBody = some body) :
    let text := (Text.Utf8.decodeLossy body).toList
    let fetched := (recon.clusterSummary network).1
    ((∃ summary, fetched = .ok summary) ↔ Recon.StatesCounts text) ∧
    (¬Recon.StatesCounts text →
      ∃ words, fetched = .error (.notJson "/api/v1/clusterState" words)) ∧
    (∀ summary, fetched = .ok summary →
      (∀ members, Json.readDocument text = .ok (.object members) →
        ∀ entry ∈ Recon.named summary, Recon.IsOf (Recon.memberText text entry.1) entry.2) ∧
      (∀ items, Json.readDocument text = .ok (.array items) →
        List.Forall₂ Recon.IsOf (Recon.itemTexts text) summary.counts) ∧
      ∀ reply,
        let report : ConnectionReport := ⟨modelStatus reply, summaryStatus fetched⟩
        report.summary =
          (if Text.allBlank reply then "[!!] Gemini: No response from Gemini\n"
            else "[ok] Gemini: Connected\n") ++
          ("[ok] Recon: Connected\n     Cluster: " ++
            decimalOf summary.totalDatanodes ++ " datanodes, " ++
            decimalOf summary.containers ++ " containers, " ++
            decimalOf summary.pipelines ++ " pipelines\n") ∧
        report.details =
          (if Text.allBlank reply then "\nGEMINI:\n  Status: No response from Gemini\n"
            else "\nGEMINI:\n  Status: Connected\n") ++
          ("\nRECON:\n  Status: Connected\n  Datanodes: " ++
            decimalOf summary.totalDatanodes ++ " total, " ++
            decimalOf summary.healthyDatanodes ++ " healthy\n  Containers: " ++
            decimalOf summary.containers ++ "\n  Pipelines: " ++
            decimalOf summary.pipelines ++ "\n")) ∧
    ∀ gemini documents before,
      Recon.Client.Succeeds ((before.after (testOrder gemini)).respond recon.probeOrder) →
      network = (before.after (testOrder gemini)).after recon.probeOrder →
        ∃ reply, ((ofClients gemini recon documents).testConnections before).1 =
          ⟨modelStatus reply, summaryStatus fetched⟩ := by
  intro text fetched
  have reply_read : fetched = Recon.Client.readSummary
      (Recon.Client.readResult Recon.clusterStateEndpoint (.ok response)) := by
    rw [← answered]
    exact congrArg Prod.fst (recon.cluster_summary_eq network)
  have fetched_iff (summary : ClusterSummary) :
      fetched = .ok summary ↔
        List.Forall₂ Recon.Tells (Recon.countTexts text) summary.counts := by
    rw [reply_read]
    exact Recon.Client.read_reply_iff success whole
  have stated : (∃ summary, fetched = .ok summary) ↔ Recon.StatesCounts text := by
    rw [Recon.states_counts_iff]
    exact exists_congr fetched_iff
  refine ⟨stated, ?_, ?_, ?_⟩
  · intro unstated
    rcases Recon.Client.read_reply_cases success whole with some | refused
    · rw [← reply_read] at some
      exact absurd (stated.1 some) unstated
    · rw [← reply_read] at refused
      exact refused
  · intro summary given
    obtain ⟨_, told⟩ := (List.forall₂_and_left _ _).1 ((fetched_iff summary).1 given)
    refine ⟨fun members document => Recon.named_of_texts document told, ?_, fun reply => ?_⟩
    · intro items document
      rw [Recon.countTexts, document] at told
      exact told
    · rw [given, ← ConnectionReport.summary_of_model, ← ConnectionReport.details_of_model]
      exact ⟨ConnectionReport.summary_with_counts _ _, ConnectionReport.details_with_counts _ _⟩
  · rintro gemini documents before probed rfl
    exact report_of_probed probed

/-- The largest count, a null, a name that comes twice, and one that nobody asks for. -/
theorem largest_count_is_shown :
    let content := "\x7b\"keys\":\"x\",\"totalDatanodes\":18446744073709551615," ++
      "\"pipelines\":null,\"keys\":7,\"other\":[-5]\x7d"
    let body := Text.Utf8.encode content
    let response : Http.Response := ⟨200, none, none, body, true⟩
    let network : Network := ⟨fun _ => true, [.response response], []⟩
    let recon : Recon.Client := ⟨"http://recon"⟩
    network.respond recon.summaryOrder = .ok response ∧ response.isSuccess = true ∧
      response.wholeBody = some body ∧
      ∃ summary, (recon.clusterSummary network).1 = .ok summary ∧ summary.keys = some 7 ∧
        (⟨modelStatus "", .connectedWith summary⟩ : ConnectionReport).summary =
          "[!!] Gemini: No response from Gemini\n" ++ "[ok] Recon: Connected\n" ++
            "     Cluster: 18446744073709551615 datanodes, ? containers, ? pipelines\n" := by
  intro content body response network recon
  have answered : network.respond recon.summaryOrder = .ok response :=
    Json.eq_ok_of_to_option (by decide +kernel)
  have success : response.isSuccess = true := rfl
  have whole : response.wholeBody = some body := rfl
  let summary : ClusterSummary := { ClusterSummary.empty with
    totalDatanodes := some 18446744073709551615, keys := some 7 }
  have given : (recon.clusterSummary network).1 = .ok summary :=
    Json.eq_ok_of_to_option (by decide +kernel)
  obtain ⟨_, _, shown, _⟩ := counts_are_shown_as_stated recon answered success whole
  obtain ⟨_, _, lines⟩ := shown summary given
  obtain ⟨inSummary, _⟩ := lines ""
  refine ⟨answered, success, whole, summary, given, rfl, ?_⟩
  rw [given] at inSummary
  exact inSummary.trans (by decide +kernel)

end Agent

end ReconChat

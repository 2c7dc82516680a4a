import ReconChat.Recon.Client

/-!
What Recon's client makes of the last response to an order. A value comes of it exactly if the
response has a status of success and a whole body that is JSON, and a summary exactly if that value
is a cluster state. Which obstacle is named otherwise is not said here.
-/

namespace ReconChat

theorem Json.parse_or_message_iff (text : String) (value : Json.Value) :
    Json.parseOrMessage text = .ok value ↔ Json.parse text = .ok value := by
  rw [Json.parseOrMessage]
  cases Json.parse text <;> simp

namespace Recon.Client

open Http (Failure Response)
open Json (Value)

def Succeeds (result : Except Failure Response) : Prop :=
  ∃ response, result = .ok response ∧ response.isSuccess = true

theorem answers_iff (result : Except Failure Response) :
    answers result = true ↔ Succeeds result := by
  cases result <;> simp [answers, Succeeds]

theorem read_response_iff (endpoint : String) (response : Response) (value : Value) :
    readResponse endpoint response = .ok value ↔
      response.isSuccess = true ∧ ∃ body, response.wholeBody = some body ∧
        Json.parse (Text.Utf8.decodeLossy body) = .ok value := by
  rw [readResponse]
  cases response.wholeBody with
  | none => simp
  | some body =>
      cases response.isSuccess with
      | false => simp
      | true =>
          cases read : Json.parseOrMessage (Text.Utf8.decodeLossy body) with
          | error words => simp [read, ← Json.parse_or_message_iff]
          | ok found => simp [read, ← Json.parse_or_message_iff]

theorem read_summary_iff (given : Except CallError Value) (summary : ClusterSummary) :
    readSummary given = .ok summary ↔
      ∃ value, given = .ok value ∧ readClusterState value = .ok summary := by
  cases given with
  | error error => simp [readSummary]
  | ok value =>
      rw [readSummary]
      cases counted : readClusterState value <;> simp [counted]

def GivesSummary (result : Except Failure Response) (summary : ClusterSummary) : Prop :=
  ∃ response body value, result = .ok response ∧ response.isSuccess = true ∧
    response.wholeBody = some body ∧ Json.parse (Text.Utf8.decodeLossy body) = .ok value ∧
    readClusterState value = .ok summary

theorem gives_summary_iff (result : Except Failure Response) (summary : ClusterSummary) :
    readSummary (readResult clusterStateEndpoint result) = .ok summary ↔
      GivesSummary result summary := by
  rw [read_summary_iff, GivesSummary]
  cases result with
  | error failure => simp [readResult]
  | ok response =>
      simp only [readResult, read_response_iff]
      constructor
      · rintro ⟨value, ⟨success, body, whole, parsed⟩, counted⟩
        exact ⟨response, body, value, rfl, success, whole, parsed, counted⟩
      · rintro ⟨same, body, value, given, success, whole, parsed, counted⟩
        cases given
        exact ⟨value, ⟨success, body, whole, parsed⟩, counted⟩

end Recon.Client

end ReconChat

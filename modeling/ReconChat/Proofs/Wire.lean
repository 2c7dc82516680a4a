import ReconChat.ChatService.Payload
import ReconChat.Proofs.Report.Wire
import ReconChat.Proofs.ToolCall.Wire

/-!
What is written for other programs. Everything that has a compact JSON form is decoded from it as
it was, whatever its texts, counts and absent parts are, and a text that is decoded and encoded
once does not change when that is done again. What is decoded from other texts is not said here.
-/

namespace ReconChat

namespace ChatService.ChatResponse

theorem reads_back (answer : ChatResponse) : Json.ReadsBack shape answer.toValue := by
  have written : answer.toValue =
      .object (Json.present [("response", some (.string answer.response))]) := rfl
  rw [written]
  exact Json.Shape.reads_record (by decide)
    (.cons (.written (Json.Shape.reads_text answer.response)) .nil)

theorem decode_encode (answer : ChatResponse) : decode answer.encode = .ok answer :=
  Json.Shape.decode_compact answer.reads_back rfl

end ChatService.ChatResponse

/-- Everything is decoded from its encoding as it was, and encoding what a text is decoded as gives
a text that decoding and encoding leave as it is. -/
def RoundTrips {Given : Type} (encode : Given → String)
    (decode : String → Except Json.Fault Given) : Prop :=
  (∀ given, decode (encode given) = .ok given) ∧
    ∀ text written, (decode text).map encode = .ok written →
      (decode written).map encode = .ok written

theorem round_trips_of_decode_encode {Given : Type} {encode : Given → String}
    {decode : String → Except Json.Fault Given}
    (decoded : ∀ given, decode (encode given) = .ok given) : RoundTrips encode decode := by
  refine ⟨decoded, fun text written read => ?_⟩
  obtain ⟨given, _, rfl⟩ := Json.map_eq_ok read
  rw [decoded]
  rfl

/-- Calls, reports and their parts, and chat responses are read as they are written. -/
theorem wire_forms_round_trip :
    RoundTrips ToolCall.encode ToolCall.decode ∧
      RoundTrips DataCall.encode DataCall.decode ∧
      RoundTrips ServiceState.encode ServiceState.decode ∧
      RoundTrips ClusterSummary.encode ClusterSummary.decode ∧
      RoundTrips ConnectionStatus.encode ConnectionStatus.decode ∧
      RoundTrips ConnectionReport.encode ConnectionReport.decode ∧
      RoundTrips ChatService.ChatResponse.encode ChatService.ChatResponse.decode :=
  ⟨round_trips_of_decode_encode ToolCall.decode_encode,
    round_trips_of_decode_encode DataCall.decode_encode,
    round_trips_of_decode_encode ServiceState.decode_encode,
    round_trips_of_decode_encode ClusterSummary.decode_encode,
    round_trips_of_decode_encode ConnectionStatus.decode_encode,
    round_trips_of_decode_encode ConnectionReport.decode_encode,
    round_trips_of_decode_encode ChatService.ChatResponse.decode_encode⟩

end ReconChat

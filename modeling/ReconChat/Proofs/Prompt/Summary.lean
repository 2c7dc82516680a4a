import ReconChat.Prompt
import ReconChat.Proofs.Json.Indented
import ReconChat.Proofs.Json.Nesting
import ReconChat.Proofs.Recon.Call
import ReconChat.Proofs.Recon.Reading
import ReconChat.Proofs.Text.Utf8

/-!
The data in a summary prompt. What Recon gave stands between an opening, which is settled by the
query and the endpoint, and a fixed closing, and is read back from there as it was given. Numbers
that are no integers of 64 bits are left out, since reading them need not give the nearest one.
-/

namespace ReconChat

namespace Recon.Client

open Http (Network)

theorem parse_of_execute {client : Client} {call : DataCall} {network : Network}
    {value : Json.Value} (given : (client.execute call network).1 = .ok value) :
    ∃ text, Json.parse text = .ok value := by
  rw [execute_eq] at given
  unfold gives readResult at given
  split at given
  · cases given
  · obtain ⟨_, body, _, parsed⟩ := (read_response_iff _ _ _).1 given
    exact ⟨_, parsed⟩

theorem execute_of_response {client : Client} {call : DataCall} {network : Network}
    {response : Http.Response} {text : String} {value : Json.Value}
    (answered : network.respond (client.callOrder call) = .ok response)
    (success : response.isSuccess = true)
    (whole : response.wholeBody = some (Text.Utf8.encode text))
    (parsed : Json.parse text = .ok value) : (client.execute call network).1 = .ok value := by
  rw [execute_eq]
  unfold gives
  rw [answered]
  apply (read_response_iff _ _ _).2
  rw [← Text.Utf8.decode_lossy_encode text] at parsed
  exact ⟨success, _, whole, parsed⟩

end Recon.Client

namespace Prompt

open Json (Value)

/-- Data that Recon can give, with no numbers but integers of 64 bits. -/
structure IsGiven (value : Value) : Prop where
  returned : ∃ (client : Recon.Client) (call : DataCall) (network : Http.Network),
    (client.execute call network).1 = .ok value
  exact : value.IsExact

theorem eq_of_between {opening closing first second : String}
    (same : opening ++ first ++ closing = opening ++ second ++ closing) : first = second := by
  apply String.toList_injective
  have chars := congrArg String.toList same
  simp only [String.toList_append] at chars
  exact List.append_cancel_left (List.append_cancel_right chars)

theorem IsGiven.canonical {value : Value} (given : IsGiven value) :
    value.canonical = value ∧ value.Nests Json.nestingLimit := by
  obtain ⟨client, call, network, returned⟩ := given.returned
  obtain ⟨text, parsed⟩ := Recon.Client.parse_of_execute returned
  exact Json.canonical_of_parse parsed

theorem IsGiven.parse_indented {value : Value} (given : IsGiven value) :
    Json.parse value.indented = .ok value := by
  obtain ⟨canonical, nests⟩ := given.canonical
  have read := Json.parse_indented (Json.Value.fits_iff.2 ⟨nests, given.exact⟩)
  rwa [canonical] at read

/-- Without its opening and its closing a summary prompt is a JSON text for the data, so that no two
data have the same prompt. -/
theorem summary_gives_data_back :
    (∀ (query endpoint : String) (value : Value), IsGiven value →
      value.Nests Json.nestingLimit ∧
      (∃ data, summary query value endpoint =
        summaryOpening query endpoint ++ data ++ summaryClosing) ∧
      ∀ data, summary query value endpoint =
          summaryOpening query endpoint ++ data ++ summaryClosing →
        Json.parse data = .ok value) ∧
    ∀ (query endpoint : String) (value other : Value), IsGiven value → IsGiven other →
      summary query value endpoint = summary query other endpoint → value = other := by
  constructor
  · intro query endpoint value given
    refine ⟨given.canonical.2, ⟨value.indented, rfl⟩, ?_⟩
    intro data between
    have indented : value.indented = data := eq_of_between between
    rw [← indented]
    exact given.parse_indented
  · intro query endpoint value other given also same
    have indented : value.indented = other.indented := eq_of_between same
    have read := given.parse_indented
    rw [indented, also.parse_indented] at read
    exact (Except.ok.inj read).symm

/-- Empty and nested containers, the least integer, and quotes and controls in names and texts. -/
theorem odd_data_come_back :
    let value : Value := .object
      [("a\n\"", .array [.object [], .number (.integer (-0x8000000000000000)), .array []]),
        ("é", .string "\x01\\")]
    let client : Recon.Client := ⟨"http://recon"⟩
    let call : DataCall := ⟨"/x", "GET", .empty, none⟩
    let network : Http.Network :=
      ⟨fun _ => true, [.response ⟨200, none, none, Text.Utf8.encode value.compact, true⟩], []⟩
    (client.execute call network).1 = .ok value ∧ value.IsExact ∧
      ∃ data, summary "q" value "/x" = summaryOpening "q" "/x" ++ data ++ summaryClosing ∧
        Json.parse data = .ok value := by
  intro value client call network
  have least : Json.Number.IsExact (.integer (-0x8000000000000000)) := by
    unfold Json.Number.IsExact
    decide
  have fits : value.Fits Json.nestingLimit := by
    simp [value, least, Json.nestingLimit]
  have answered : network.respond (client.callOrder call) =
      .ok ⟨200, none, none, Text.Utf8.encode value.compact, true⟩ :=
    Json.eq_ok_of_to_option (by decide +kernel)
  have returned : (client.execute call network).1 = .ok value :=
    Recon.Client.execute_of_response answered rfl rfl (Json.parse_compact fits)
  have given : IsGiven value := ⟨⟨client, call, network, returned⟩, (Value.fits_iff.1 fits).2⟩
  obtain ⟨_, ⟨data, between⟩, read⟩ := summary_gives_data_back.1 "q" "/x" value given
  exact ⟨returned, given.exact, data, between, read data between⟩

end Prompt

end ReconChat

import ReconChat.Proofs.Http.Address
import ReconChat.Proofs.Recon.Call
import ReconChat.Proofs.Selection.Parameters
import ReconChat.Proofs.Text.Utf8
import ReconChat.Proofs.Url.Parts

/-!
Parameters on their way from a reply to Recon. The query of the request is what the reply spells,
name by name, and the rest of its address is what the base and the endpoint make of it. Bases and
endpoints that bring a query or a fragment of their own are left out.
-/

namespace ReconChat.Recon.Client

open Http (Network Request)

/-- Parameters reach Recon as the reply spells them: sorted by the bytes of their names, each name
once with what its last member says, and without nulls. The rest of the address is that of the
endpoint. -/
theorem parameters_reach_recon (settings : ReconSettings) (reply : String) (call : DataCall)
    (spelled : List (String × Json.Spelling))
    (plainBase : '?' ∉ settings.baseUrl.toList ∧ '#' ∉ settings.baseUrl.toList)
    (decided : Selection.parse reply = .ok (some (.data call)))
    (plainEndpoint : '?' ∉ call.endpoint.toList ∧ '#' ∉ call.endpoint.toList)
    (parameters : Selection.spelledParameters reply = some spelled)
    (plain : ∀ member ∈ spelled, member.2.isPlain = true) :
    ∃ pairs : List (String × String),
      pairs.Pairwise (fun earlier later =>
        Text.Utf8.encode earlier.1 < Text.Utf8.encode later.1) ∧
      (∀ name text, (name, text) ∈ pairs ↔
        (latest? name spelled).bind Json.Spelling.said = some text) ∧
      ∀ (network : Network) (request : Request),
        ((ofSettings settings).execute call network).2.lastAsked = some request →
          request.url.query.map Url.Form.decode = (if pairs = [] then none else some pairs) ∧
          (Url.parse ((ofSettings settings).target call.endpoint)).map Url.withoutUser =
            some { request.url with query := none } := by
  refine ⟨call.parameters.entries, ?_, ?_, ?_⟩
  · exact call.parameters.sorted.imp Text.Utf8.encode_lt
  · intro name text
    rw [mem_iff_latest call.parameters.sorted,
      Selection.latest_parameter decided parameters plain name]
  · intro network request asked
    have proper := request_of_execute asked
    obtain ⟨url, read, address⟩ := Http.address_of_request proper
    have noQuery : url.query = none :=
      Url.query_of_parse (not_mem_target (by decide) plainBase.1 plainEndpoint.1)
        (not_mem_target (by decide) plainBase.2 plainEndpoint.2) read
    have added := Url.add_pairs_decode ((Url.query_without_user url).trans noQuery)
      call.parameters.entries
    change request.url = url.withoutUser.addPairs call.parameters.entries at address
    rw [address]
    refine ⟨added.1, ?_⟩
    change Url.parse ((ofSettings settings).target call.endpoint) = some url at read
    rw [read, Option.map_some, added.2]

/-- Separators inside a name and a value, a null, and a name that comes twice. -/
theorem odd_parameters_reach_recon :
    let settings : ReconSettings := ⟨"http://recon/", none⟩
    let reply := "\x7b\"endpoint\":\"x\",\"parameters\":" ++
      "\x7b\"z\":1,\"a&\":\"=#\",\"n\":null,\"z\":-2\x7d\x7d"
    let call : DataCall := ⟨"x", "GET", .ofList [("a&", "=#"), ("z", "-2")], none⟩
    Selection.parse reply = .ok (some (.data call)) ∧
      ∃ (pairs : List (String × String)) (request : Request),
        ((ofSettings settings).execute call ⟨fun _ => true, [], []⟩).2.lastAsked = some request ∧
        request.url.query.map Url.Form.decode = some pairs ∧
        ("a&", "=#") ∈ pairs ∧ ("z", "-2") ∈ pairs ∧ ∀ text, ("n", text) ∉ pairs := by
  intro settings reply call
  have decided : Selection.parse reply = .ok (some (.data call)) :=
    Json.eq_ok_of_to_option (by decide +kernel)
  have given : (Selection.spelledParameters reply).any (fun spelled =>
      spelled.all (·.2.isPlain) && (latest? "a&" spelled).bind Json.Spelling.said = some "=#" &&
        (latest? "z" spelled).bind Json.Spelling.said = some "-2" &&
        (latest? "n" spelled).bind Json.Spelling.said = none) = true := by
    decide +kernel
  have asks :
      (((ofSettings settings).execute call ⟨fun _ => true, [], []⟩).2.lastAsked).isSome = true := by
    decide +kernel
  obtain ⟨spelled, parameters, holds⟩ := (Option.any_eq_true _ _).1 given
  simp only [Bool.and_eq_true, List.all_eq_true, decide_eq_true_eq] at holds
  obtain ⟨⟨⟨plain, ampersand⟩, twice⟩, null⟩ := holds
  obtain ⟨request, asked⟩ := Option.isSome_iff_exists.1 asks
  obtain ⟨pairs, _, members, sent⟩ := parameters_reach_recon settings reply call spelled
    (by decide) decided (by decide) parameters plain
  have first : ("a&", "=#") ∈ pairs := (members _ _).2 ampersand
  have nonempty : pairs ≠ [] := List.ne_nil_of_mem first
  have query := (sent ⟨fun _ => true, [], []⟩ request asked).1
  rw [if_neg nonempty] at query
  refine ⟨decided, pairs, request, asked, query, first, (members _ _).2 twice, ?_⟩
  intro text member
  have said := (members _ _).1 member
  rw [null] at said
  cases said

end ReconChat.Recon.Client

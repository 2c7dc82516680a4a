import ReconChat.Proofs.Http.Address
import ReconChat.Proofs.Recon.Call
import ReconChat.Proofs.Url.Below

/-!
Where a data call goes. Whatever the endpoint is, it goes to the scheme, the host and the port of
the configured base, and slashes at the end of the base or a missing one in front of the endpoint
make no difference. Redirects are not considered here, nor is the path that a request ends up at.
-/

namespace ReconChat.Recon.Client

open Http (Network Request)

/-- A data call goes to the scheme, the host and the port of the base, or nowhere. -/
theorem data_calls_stay_at_base (settings : ReconSettings) (base : Url) (call : DataCall)
    (network : Network) (valid : Url.parse settings.baseUrl = some base)
    (web : base.scheme = "http") :
    (∀ request, ((ofSettings settings).execute call network).2.lastAsked = some request →
      request.url.scheme = "http" ∧ request.url.host = base.host ∧
        request.url.port = base.port) ∧
    (∀ count, (ofSettings { settings with
        baseUrl := settings.baseUrl ++ String.ofList (List.replicate count '/') }).execute call
        network = (ofSettings settings).execute call network) ∧
    (call.endpoint.toList.head? ≠ some '/' →
      ((ofSettings settings).execute { call with endpoint := "/" ++ call.endpoint } network).2 =
        ((ofSettings settings).execute call network).2) := by
  refine ⟨?_, ?_, ?_⟩
  · intro request asked
    obtain ⟨url, read, address⟩ := Http.address_of_request (request_of_execute asked)
    obtain ⟨scheme, host, port⟩ :=
      Http.same_server_address ((ofSettings settings).callOrder call) url
    obtain ⟨count, slashes⟩ := Text.append_of_drop_trailing_slashes settings.baseUrl
    obtain ⟨more, below, _⟩ := (ofSettings settings).target_below call.endpoint
    change Url.parse ((ofSettings settings).target call.endpoint) = some url at read
    rw [slashes] at valid
    rw [below] at read
    rw [address, scheme, host, port]
    exact Url.host_port_below valid web read
  · intro count
    rw [ofSettings, ofSettings, Text.drop_trailing_slashes_append]
  · intro missing
    rw [execute_eq, execute_eq, callOrder, callOrder, dataOrder, dataOrder, target_slash _ missing]

/-- An endpoint that reads as a port, a user and a host of its own. -/
theorem odd_endpoint_stays_at_base :
    let settings : ReconSettings := ⟨"http://recon:3000/", none⟩
    let call : DataCall := ⟨":80@evil\\x", "GET", .empty, none⟩
    ∃ request : Request,
      ((ofSettings settings).execute call ⟨fun _ => true, [], []⟩).2.lastAsked = some request ∧
        request.url.host = some "recon".toList ∧ request.url.port = some 3000 := by
  intro settings call
  have given : (Url.parse settings.baseUrl).any (fun base =>
      base.scheme = "http" && base.host = some "recon".toList && base.port = some 3000) = true := by
    decide +kernel
  have asks :
      (((ofSettings settings).execute call ⟨fun _ => true, [], []⟩).2.lastAsked).isSome = true := by
    decide +kernel
  obtain ⟨base, valid, holds⟩ := (Option.any_eq_true _ _).1 given
  simp only [Bool.and_eq_true, decide_eq_true_eq] at holds
  obtain ⟨request, asked⟩ := Option.isSome_iff_exists.1 asks
  obtain ⟨stays, _⟩ :=
    data_calls_stay_at_base settings base call ⟨fun _ => true, [], []⟩ valid holds.1.1
  obtain ⟨_, host, port⟩ := stays request asked
  exact ⟨request, asked, host.trans holds.1.2, port.trans holds.2⟩

end ReconChat.Recon.Client

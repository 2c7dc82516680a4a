import ReconChat.Proofs.Http.Address
import ReconChat.Proofs.Http.Outcome

/-!
Where a key goes. Every request that is sent for an order has the order's key, redirects included,
and with the key hidden an order goes the same way: the same responses, the same addresses, the
same replies used up. So two programs whose orders differ in nothing but their keys cannot be told
apart by what they give or by anything they send, keys apart. A key that may not stand in a header
is another matter, since an order with such a key is not sent.
-/

namespace ReconChat.Http

/-- Hides what a key is, not whether there is one. -/
def hideKey (key : Option String) : Option String := key.map fun _ => ""

def Request.masked (request : Request) : Request :=
  { request with apiKey := hideKey request.apiKey }

def Order.masked (order : Order) : Order := { order with apiKey := hideKey order.apiKey }

def Outcome.masked (outcome : Outcome) : Outcome :=
  { outcome with sent := outcome.sent.map Request.masked }

def Exchange.masked (exchange : Exchange) : Exchange :=
  ⟨exchange.order.masked, exchange.sent.map Request.masked⟩

def Network.masked (network : Network) : Network :=
  { network with exchanges := network.exchanges.map Exchange.masked }

@[simp] theorem masked_url (request : Request) : request.masked.url = request.url := rfl

theorem redirected_masked (request : Request) (response : Response) :
    redirected request.masked response = (redirected request response).map Request.masked := by
  rw [redirected, redirected, masked_url]
  cases response.location.bind (locate request.url) with
  | none => rfl
  | some url =>
      dsimp only
      split
      · rfl
      · split <;> rfl

/-- A redirect goes along with its key, so that hiding the key hides it everywhere. -/
theorem send_masked (reaches : Url → Bool) (origin : Url) (redirects : Nat) (request : Request)
    (replies : List Reply) :
    send reaches origin redirects request.masked replies =
      (send reaches origin redirects request replies).masked := by
  fun_induction send reaches origin redirects request replies with
  | case7 request arrives response rest readable next leads redirects proper later induction =>
      rw [send.eq_def]
      dsimp only
      rw [masked_url, if_neg arrives, if_neg readable, redirected_masked, leads]
      dsimp only [Option.map_some]
      rw [masked_url, if_pos proper, induction]
      rfl
  | _ => simp_all [send.eq_def, redirected_masked, Outcome.masked]

theorem redirected_key {request next : Request} {response : Response}
    (leads : redirected request response = some next) : next.apiKey = request.apiKey := by
  rw [redirected] at leads
  split at leads
  · cases leads
  · split at leads
    · cases leads
      rfl
    · split at leads <;> cases leads
      rfl

theorem send_key (reaches : Url → Bool) (origin : Url) (redirects : Nat) (request : Request)
    (replies : List Reply) :
    ∀ sent ∈ (send reaches origin redirects request replies).sent,
      sent.apiKey = request.apiKey := by
  fun_induction send reaches origin redirects request replies with
  | case7 request _ _ _ _ next leads _ _ later induction =>
      intro sent member
      rcases List.mem_cons.1 member with first | follows
      · rw [first]
      · rw [induction sent follows, redirected_key leads]
  | _ => simp

section Order

variable {order : Order}

def Order.KeyFits (order : Order) : Prop := order.apiKey.all isHeaderText = true

theorem hide_key_fits (key : Option String) : (hideKey key).all isHeaderText = true := by
  cases key <;> rfl

theorem request_masked (fits : order.KeyFits) :
    order.masked.request = order.request.map Request.masked := by
  have masked : order.masked.apiKey.all isHeaderText = true := hide_key_fits order.apiKey
  rw [Order.KeyFits] at fits
  cases read : Url.parse order.target with
  | none =>
      rw [Order.request, Order.request, show order.masked.target = order.target from rfl, read]
      rfl
  | some url =>
      rw [request_at read, request_at (show Url.parse order.masked.target = some url from read),
        masked, fits, show order.masked.addressAt url = order.addressAt url from rfl]
      split
      · rfl
      rw [if_neg (by decide)]
      split <;> rfl

theorem outcome_masked (fits : order.KeyFits) (reaches : Url → Bool) (replies : List Reply) :
    order.masked.outcome reaches replies = (order.outcome reaches replies).masked := by
  rw [Order.outcome, Order.outcome, request_masked fits]
  cases order.request with
  | error failure => rfl
  | ok request => exact send_masked reaches request.url redirectLimit request replies

theorem outcome_key (reaches : Url → Bool) (replies : List Reply) :
    ∀ sent ∈ (order.outcome reaches replies).sent, sent.apiKey = order.apiKey := by
  rw [Order.outcome]
  cases asked : order.request with
  | error failure => simp
  | ok request =>
      intro sent member
      obtain ⟨url, _, rfl⟩ := order_of_request asked
      exact send_key reaches _ redirectLimit _ replies sent member

end Order

namespace Network

variable {network : Network} {order : Order}

theorem respond_masked (fits : order.KeyFits) :
    network.masked.respond order.masked = network.respond order := by
  rw [respond, respond, show network.masked.reaches = network.reaches from rfl,
    show network.masked.replies = network.replies from rfl, outcome_masked fits]
  rfl

theorem after_masked (fits : order.KeyFits) :
    network.masked.after order.masked = (network.after order).masked := by
  have outcome := outcome_masked fits network.reaches network.replies
  simp only [after, exchange, masked, Exchange.masked, outcome, List.map_append, List.map_cons,
    List.map_nil]
  rfl

theorem requests_masked (network : Network) :
    network.masked.requests = network.requests.map Request.masked := by
  rw [requests, requests, masked, List.flatMap_map, List.map_flatMap]
  rfl

/-- What several orders leave on the network: an exchange for each, every request of which has the
key of its order. -/
theorem after_all_made (network : Network) (orders : List Order) :
    ∃ made, (network.afterAll orders).exchanges = network.exchanges ++ made ∧
      made.map Exchange.order = orders ∧
      ∀ exchange ∈ made, ∀ request ∈ exchange.sent, request.apiKey = exchange.order.apiKey := by
  induction orders generalizing network with
  | nil => exact ⟨[], by simp [afterAll], rfl, by simp⟩
  | cons order orders induction =>
      obtain ⟨made, whole, ordered, keys⟩ := induction (network.after order)
      refine ⟨network.exchange order :: made, ?_, ?_, ?_⟩
      · rw [after_exchanges, List.append_assoc] at whole
        exact whole
      · rw [List.map_cons, ordered, exchange_order]
      · intro exchange member
        rcases List.mem_cons.1 member with rfl | later
        · exact outcome_key network.reaches network.replies
        · exact keys exchange later

end Network

section Alike

variable {Given Other : Type}

/-- Two programs that cannot be told apart on networks that are the same but for keys. -/
def Alike (first second : StateM Network Given) : Prop :=
  ∀ one other : Network, one.masked = other.masked →
    (first one).1 = (second other).1 ∧ (first one).2.masked = (second other).2.masked

theorem alike_pure (given : Given) :
    Alike (pure given : StateM Network Given) (pure given) :=
  fun _ _ same => ⟨rfl, same⟩

theorem alike_bind {first second : StateM Network Given} {next after : Given → StateM Network Other}
    (start : Alike first second) (later : ∀ given, Alike (next given) (after given)) :
    Alike (first >>= next) (second >>= after) := by
  intro one other same
  obtain ⟨given, left⟩ := start one other same
  rw [run_bind, run_bind, given]
  exact later _ _ _ left

theorem alike_perform {order other : Order} (same : order.masked = other.masked)
    (fits : order.KeyFits) (otherFits : other.KeyFits) :
    Alike (perform order) (perform other) := by
  intro one two networks
  rw [perform_eq, perform_eq]
  constructor
  · rw [← Network.respond_masked fits, same, networks, Network.respond_masked otherFits]
  · rw [← Network.after_masked fits, same, networks, Network.after_masked otherFits]

end Alike
end ReconChat.Http

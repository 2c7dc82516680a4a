import ReconChat.Http.Exchange

/-!
What an order does to the network, as functions of the order and the network alone: the outcome,
and the network after it. The order is recorded with the requests that were sent for it, also when
it makes no request at all. Nothing is said here about redirects, save that a success is none.
-/

namespace ReconChat.Http

def Order.outcome (order : Order) (reaches : Url → Bool) (replies : List Reply) : Outcome :=
  match order.request with
  | .error failure => ⟨.error failure, [], replies⟩
  | .ok request => send reaches request.url redirectLimit request replies

theorem send_starts (reaches : Url → Bool) (origin : Url) (redirects : Nat) (request : Request)
    (replies : List Reply) :
    (send reaches origin redirects request replies).sent = [] ∨
      ∃ later, (send reaches origin redirects request replies).sent = request :: later := by
  rw [send.eq_def]
  dsimp only
  split
  · exact .inl rfl
  · right
    split
    · exact ⟨_, rfl⟩
    · exact ⟨_, rfl⟩
    · split
      · exact ⟨_, rfl⟩
      · split
        · exact ⟨_, rfl⟩
        · split
          · exact ⟨_, rfl⟩
          · split <;> exact ⟨_, rfl⟩

theorem request_of_sent {order : Order} {reaches : Url → Bool} {replies : List Reply}
    {first : Request} (sent : (order.outcome reaches replies).sent.head? = some first) :
    order.request = .ok first := by
  rw [Order.outcome] at sent
  split at sent
  · cases sent
  · next request asked =>
      rcases send_starts reaches request.url redirectLimit request replies with
        nothing | ⟨later, starts⟩
      · rw [nothing] at sent
        cases sent
      · rw [starts] at sent
        cases sent
        exact asked

namespace Network

/-- The last response to an order, or why there is none. -/
def respond (network : Network) (order : Order) : Except Failure Response :=
  (order.outcome network.reaches network.replies).result

def exchange (network : Network) (order : Order) : Exchange :=
  ⟨order, (order.outcome network.reaches network.replies).sent⟩

def after (network : Network) (order : Order) : Network :=
  { network with
    replies := (order.outcome network.reaches network.replies).replies
    exchanges := network.exchanges ++ [network.exchange order] }

@[simp] theorem after_exchanges (network : Network) (order : Order) :
    (network.after order).exchanges = network.exchanges ++ [network.exchange order] := rfl

@[simp] theorem after_reaches (network : Network) (order : Order) :
    (network.after order).reaches = network.reaches := rfl

@[simp] theorem exchange_order (network : Network) (order : Order) :
    (network.exchange order).order = order := rfl

def lastAsked (network : Network) : Option Request :=
  network.exchanges.getLast?.bind (·.sent.head?)

def afterAll (network : Network) (orders : List Order) : Network := orders.foldl after network

theorem after_all_cons (network : Network) (order : Order) (orders : List Order) :
    network.afterAll (order :: orders) = (network.after order).afterAll orders := rfl

theorem after_all_orders (network : Network) (orders : List Order) :
    (network.afterAll orders).exchanges.map Exchange.order =
      network.exchanges.map Exchange.order ++ orders := by
  induction orders generalizing network with
  | nil => simp [afterAll]
  | cons order orders induction =>
      have later := induction (network.after order)
      rw [afterAll] at later ⊢
      rw [List.foldl_cons, later]
      simp

end Network

theorem request_of_last_asked {order : Order} {network : Network} {request : Request}
    (asked : (network.after order).lastAsked = some request) : order.request = .ok request := by
  rw [Network.lastAsked, Network.after_exchanges, List.getLast?_concat, Option.bind_some] at asked
  exact request_of_sent asked

/-- A response of success leads nowhere else: a proper request has it for an answer where it
arrives. -/
theorem respond_of_success {order : Order} {network : Network} {response : Response}
    {replies : List Reply}
    (reached : order.request.toOption.any (fun request => network.reaches request.url) = true)
    (replied : network.replies = .response response :: replies)
    (readable : response.isReadable = true) (success : response.isSuccess = true) :
    network.respond order = .ok response := by
  have stays (request : Request) : redirected request response = none := by
    have noRedirect : dropsBody response.status = false ∧ keepsBody response.status = false := by
      simp only [Response.isSuccess, Bool.and_eq_true, decide_eq_true_eq] at success
      simp only [dropsBody, keepsBody, Bool.or_eq_false_iff, decide_eq_false_iff_not]
      omega
    unfold redirected
    rw [noRedirect.1, noRedirect.2]
    split <;> rfl
  unfold Network.respond Order.outcome
  cases request : order.request with
  | error failure =>
      rw [request] at reached
      cases reached
  | ok request' =>
      rw [request] at reached
      have arrives : network.reaches request'.url = true := reached
      dsimp only
      rw [replied, send.eq_def]
      simp only [arrives, readable, stays, Bool.not_true, Bool.false_eq_true, if_false]

theorem perform_eq (order : Order) (network : Network) :
    perform order network = (network.respond order, network.after order) := by
  simp only [perform, Network.respond, Network.after, Network.exchange, Order.outcome]
  cases order.request <;> rfl

theorem run_bind {Given Other : Type} (first : StateM Network Given)
    (next : Given → StateM Network Other) (network : Network) :
    (first >>= next) network = next (first network).1 (first network).2 := rfl

theorem run_pure {Given : Type} (given : Given) (network : Network) :
    (pure given : StateM Network Given) network = (given, network) := rfl

/-- An order changes the network in the same way whatever is made of its outcome. -/
theorem perform_then {Given : Type} (read : Except Failure Response → Given) (order : Order)
    (network : Network) :
    (do return read (← perform order) : StateM Network Given) network =
      (read (network.respond order), network.after order) := by
  rw [run_bind, perform_eq]
  rfl

end ReconChat.Http

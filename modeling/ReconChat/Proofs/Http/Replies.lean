import ReconChat.Proofs.Http.Outcome

/-!
Which replies an order uses up. Every request that is sent takes one reply, as long as there are
any, and what becomes of an order is settled by the replies that its requests take: with the rest
of the list cut off it goes the same way. Where the replies run out there is nothing to cut.
-/

namespace ReconChat.Http

def Outcome.limited (outcome : Outcome) (count : Nat) : Outcome :=
  { outcome with replies := outcome.replies.take (count - outcome.sent.length) }

/-- The replies behind those that are taken play no part. -/
theorem send_take (reaches : Url → Bool) (origin : Url) (redirects : Nat) (request : Request)
    (replies : List Reply) (count : Nat)
    (enough : (send reaches origin redirects request replies).sent.length ≤ count) :
    send reaches origin redirects request (replies.take count) =
      (send reaches origin redirects request replies).limited count := by
  fun_induction send reaches origin redirects request replies generalizing count with
  | case1 redirects request replies unreached => simp [send.eq_def, Outcome.limited, unreached]
  | case7 request arrives response rest readable next leads redirects proper later induction =>
      cases count with
      | zero => simp at enough
      | succ count =>
          have fewer : later.sent.length ≤ count := Nat.le_of_succ_le_succ enough
          rw [List.take_succ_cons, send.eq_def]
          dsimp only
          rw [if_neg arrives, if_neg readable, leads]
          dsimp only
          rw [if_pos proper, induction count fewer]
          simp [Outcome.limited, later]
  | _ =>
      cases count with
      | zero => simp at enough
      | succ count => simp_all [send.eq_def, Outcome.limited]

theorem outcome_take (order : Order) (reaches : Url → Bool) (replies : List Reply) {count : Nat}
    (enough : (order.outcome reaches replies).sent.length ≤ count) :
    order.outcome reaches (replies.take count) =
      (order.outcome reaches replies).limited count := by
  rw [Order.outcome, Order.outcome] at *
  cases asked : order.request with
  | error failure => rfl
  | ok request =>
      rw [asked] at enough
      exact send_take reaches request.url redirectLimit request replies count enough

namespace Network

def limited (network : Network) (count : Nat) : Network :=
  { network with replies := network.replies.take count }

def sentFor (network : Network) : List Order → List Request
  | [] => []
  | order :: orders => (network.exchange order).sent ++ (network.after order).sentFor orders

def repliesTo (network : Network) (orders : List Order) : List Reply :=
  network.replies.take (network.sentFor orders).length

variable {network : Network} {order : Order} {count : Nat}

theorem respond_limited (enough : (network.exchange order).sent.length ≤ count) :
    (network.limited count).respond order = network.respond order := by
  rw [respond, respond, limited, outcome_take order network.reaches network.replies enough]
  rfl

theorem after_limited (enough : (network.exchange order).sent.length ≤ count) :
    (network.limited count).after order =
      (network.after order).limited (count - (network.exchange order).sent.length) := by
  have outcome := outcome_take order network.reaches network.replies enough
  simp only [after, exchange, limited, outcome]
  rfl

/-- Two networks on which the same is to come, whatever was exchanged on them. -/
def SameToCome (one other : Network) : Prop :=
  one.reaches = other.reaches ∧ one.replies = other.replies

variable {other : Network}

theorem respond_same (same : SameToCome network other) (order : Order) :
    network.respond order = other.respond order := by
  rw [respond, respond, same.1, same.2]

theorem after_same (same : SameToCome network other) (order : Order) :
    SameToCome (network.after order) (other.after order) := by
  refine ⟨same.1, ?_⟩
  rw [after, after, same.1, same.2]

/-- Networks that have the same replies to several orders cannot be told apart by these orders. -/
theorem limited_same {orders others : List Order} (reached : network.reaches = other.reaches)
    (replied : network.repliesTo orders = other.repliesTo others) :
    SameToCome (network.limited (network.sentFor orders).length)
      (other.limited (other.sentFor others).length) :=
  ⟨reached, replied⟩

end Network

end ReconChat.Http

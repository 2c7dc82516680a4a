import ReconChat.Http.Exchange
import ReconChat.Proofs.Url.Form

/-!
The address that an order asks for. It is the URL that its target is read as, without the user and
with the pairs of the order in its query. Which targets are read as URLs is not said here.
-/

namespace ReconChat

namespace Url

variable {url : Url}

@[simp] theorem query_without_user (url : Url) : url.withoutUser.query = url.query := by
  rw [withoutUser.eq_def]
  split
  · rfl
  · dsimp only
    split <;> rfl

/-- Pairs that are added to a URL without a query are its query, and nothing else changes. -/
theorem add_pairs_decode (noQuery : url.query = none) (pairs : List (String × String)) :
    (url.addPairs pairs).query.map Form.decode = (if pairs = [] then none else some pairs) ∧
      { url.addPairs pairs with query := none } = url := by
  constructor
  · rw [addPairs, noQuery, Option.getD_none]
    dsimp only
    by_cases empty : pairs = []
    · subst empty
      rfl
    · have written : Form.appendPairs [] pairs ≠ [] := by
        intro nothing
        exact empty ((Form.append_pairs_eq_nil pairs).1 nothing)
      rw [if_neg (by simpa using written), if_neg empty, Option.map_some,
        Form.decode_append_pairs]
  · rw [addPairs, ← noQuery]

def sameServer (url other : Url) : Prop :=
  url.scheme = other.scheme ∧ url.host = other.host ∧ url.port = other.port

theorem same_server_without_user (url : Url) : url.withoutUser.sameServer url := by
  rw [withoutUser.eq_def]
  split
  · exact ⟨rfl, rfl, rfl⟩
  · dsimp only
    split <;> exact ⟨rfl, rfl, rfl⟩

end Url

namespace Http

def Order.addressAt (order : Order) (url : Url) : Url :=
  match order.pairs with
  | none => url.withoutUser
  | some pairs => url.withoutUser.addPairs pairs

theorem same_server_address (order : Order) (url : Url) :
    (order.addressAt url).sameServer url := by
  rw [Order.addressAt]
  split
  · exact Url.same_server_without_user url
  · exact Url.same_server_without_user url

theorem request_at {order : Order} {url : Url} (read : Url.parse order.target = some url) :
    order.request =
      if !url.hasHost then .error (.badAddress url)
      else if !order.apiKey.all isHeaderText then .error .badOrder
      else if isRequestScheme (order.addressAt url).scheme && isTarget (order.addressAt url) then
        .ok ⟨order.method, order.addressAt url, order.apiKey, order.body⟩
      else .error (.badAddress (order.addressAt url)) := by
  rw [Order.request, read]
  rfl

theorem order_of_request {order : Order} {request : Request}
    (asked : order.request = .ok request) :
    ∃ url, Url.parse order.target = some url ∧
      request = ⟨order.method, order.addressAt url, order.apiKey, order.body⟩ := by
  cases read : Url.parse order.target with
  | none =>
      rw [Order.request, read] at asked
      cases asked
  | some url =>
      rw [request_at read] at asked
      split at asked
      · cases asked
      split at asked
      · cases asked
      split at asked
      · cases asked
        exact ⟨url, rfl, rfl⟩
      · cases asked

theorem address_of_request {order : Order} {request : Request}
    (asked : order.request = .ok request) :
    ∃ url, Url.parse order.target = some url ∧ request.url = order.addressAt url := by
  obtain ⟨url, read, rfl⟩ := order_of_request asked
  exact ⟨url, read, rfl⟩

end Http

end ReconChat

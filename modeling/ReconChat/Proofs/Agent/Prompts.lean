import ReconChat.Proofs.Agent.Course
import ReconChat.Proofs.Gemini.Order
import ReconChat.Proofs.Http.Address
import ReconChat.Proofs.Json.Printed

/-!
Prompts on their way to the model. The body of every exchange is a JSON text for a single turn of a
user with the prompt as its only text, whatever its characters are, and has no raw control
characters. A redirect keeps the body or drops it. What the model makes of a prompt is not said.
-/

namespace ReconChat

namespace Http

theorem redirected_body {request next : Request} {response : Response}
    (leads : redirected request response = some next) :
    next.body = request.body ∨ next.body = none := by
  unfold redirected at leads
  split at leads
  · cases leads
  · split at leads
    · cases leads
      exact .inr rfl
    · split at leads <;> cases leads
      exact .inl rfl

theorem send_body (reaches : Url → Bool) (origin : Url) (redirects : Nat) (request : Request)
    (replies : List Reply) :
    ∀ sent ∈ (send reaches origin redirects request replies).sent,
      sent.body = request.body ∨ sent.body = none := by
  fun_induction send reaches origin redirects request replies with
  | case7 request _ _ _ _ next leads _ _ later induction =>
      intro sent member
      rcases List.mem_cons.1 member with first | follows
      · exact .inl (congrArg Request.body first)
      · rcases induction sent follows with same | dropped
        · rw [same]
          exact redirected_body leads
        · exact .inr dropped
  | _ => simp

/-- A program that makes one exchange, with a body that stands in its first request and in every
later one that has a body. -/
def Sends {Given : Type} (program : StateM Network Given) (body : String) : Prop :=
  ∀ network, ∃ exchange, (program network).2.exchanges = network.exchanges ++ [exchange] ∧
    (∀ request, exchange.sent.head? = some request → request.body = some body) ∧
    ∀ request ∈ exchange.sent, request.body = some body ∨ request.body = none

theorem sends_of_order {Given : Type} {program : StateM Network Given} {order : Order}
    {body : String} (runs : ∀ network, (program network).2 = network.after order)
    (written : order.body = some body) : Sends program body := by
  intro network
  refine ⟨network.exchange order, by rw [runs, Network.after_exchanges], ?_, ?_⟩
  · intro request first
    obtain ⟨url, _, rfl⟩ := order_of_request (request_of_sent first)
    exact written
  · unfold Network.exchange Order.outcome
    cases asked : order.request with
    | error failure => simp
    | ok request =>
        obtain ⟨url, _, rfl⟩ := order_of_request asked
        rw [← written]
        exact send_body _ _ _ _ _

end Http

namespace Gemini.Client

open Json (Value)

def userTurn (prompt : String) : Value :=
  .object [("contents", .array [.object
    [("parts", .array [.object [("text", .string prompt)]]), ("role", .string "user")]])]

theorem request_body_printed (prompt : String) : Json.Printed (requestBody prompt).toList := by
  have part : (Value.object [("text", .string prompt)]).IsExact :=
    .object (by simpa using .string prompt)
  have turn : (Value.object [("role", .string "user"),
      ("parts", .array [.object [("text", .string prompt)]])]).IsExact := by
    apply Value.IsExact.object
    simpa using ⟨.string "user", .array (by simpa using part)⟩
  apply Json.compact_printed
  apply Value.IsExact.object
  simpa using .array (by simpa using turn)

/-- The prompt of every exchange is in its body as it is, and is read back from there. -/
theorem prompts_are_sent_verbatim :
    (∀ prompt, Json.parse (requestBody prompt) = .ok (userTurn prompt) ∧
      ∀ char ∈ (requestBody prompt).toList, 0x20 ≤ char.toNat) ∧
    (∀ prompt other, requestBody prompt = requestBody other → prompt = other) ∧
    ∀ client : Client,
      (∀ prompt, Http.Sends (client.generate prompt) (requestBody prompt)) ∧
      (∀ query schema guide,
        Http.Sends (client.languageModel.select query schema guide)
          (requestBody (Prompt.selectionOpening ++ schema ++
            (if guide = "" then ""
              else "\n\nDetailed API Guide:\n" ++ guide ++ "\n\n" ++ Prompt.guideReminder) ++
            "\n\nUser Query: " ++ query))) ∧
      (∀ query value endpoint,
        Http.Sends (client.languageModel.summarize query value endpoint)
          (requestBody (Prompt.summary query value endpoint))) ∧
      ∀ query, Http.Sends (client.languageModel.fallback query)
        (requestBody (Prompt.fallback query)) := by
  refine ⟨fun prompt => ⟨parse_request_body prompt, request_body_printed prompt⟩,
    fun _ _ => request_body_injective, ?_⟩
  intro client
  have asks {Given : Type} (read : Except GenerationError String → Given) (prompt : String) :
      Http.Sends (do return read (← client.generate prompt)) (requestBody prompt) :=
    Http.sends_of_order (fun network => by rw [generate_then]) rfl
  refine ⟨asks id, ?_, fun query value endpoint => asks summaryOf _, fun query => asks fallbackOf _⟩
  intro query schema guide
  have prompt : Prompt.selection query schema guide =
      Prompt.selectionOpening ++ schema ++
        (if guide = "" then ""
          else "\n\nDetailed API Guide:\n" ++ guide ++ "\n\n" ++ Prompt.guideReminder) ++
        "\n\nUser Query: " ++ query := by
    unfold Prompt.selection Prompt.guideSection
    simp only [String.isEmpty_iff]
  rw [← prompt]
  exact asks selectionOf _

/-- Quotes, controls and a character of four bytes, with an empty guide. -/
theorem odd_query_is_sent_verbatim :
    let client : Client := ⟨"key", "m", "http://gemini/"⟩
    let query := "\"\\\x00\x1f\x7f\n😀"
    let prompt := Prompt.selectionOpening ++ "schema" ++ "" ++ "\n\nUser Query: " ++ query
    requestBody query ≠ requestBody "q" ∧
      ∃ request body,
        (client.languageModel.select query "schema" "" ⟨fun _ => true, [], []⟩).2.lastAsked =
          some request ∧
        request.body = some body ∧ Json.parse body = .ok (userTurn prompt) := by
  intro client query prompt
  obtain ⟨reads, different, sends⟩ := prompts_are_sent_verbatim
  obtain ⟨exchange, exchanges, first, _⟩ :=
    (sends client).2.1 query "schema" "" ⟨fun _ => true, [], []⟩
  have asks : ((client.languageModel.select query "schema" ""
      ⟨fun _ => true, [], []⟩).2.lastAsked).isSome = true := by
    decide +kernel
  obtain ⟨request, asked⟩ := Option.isSome_iff_exists.1 asks
  have head : exchange.sent.head? = some request := by
    rw [← asked, Http.Network.lastAsked, exchanges, List.getLast?_concat, Option.bind_some]
  exact ⟨fun same => absurd (different _ _ same) (by decide), request, _, asked, first request head,
    (reads prompt).1⟩

end Gemini.Client

end ReconChat

import ReconChat.Gemini.Client
import ReconChat.Proofs.Json.Written
import ReconChat.Prompt

/-!
The order of a prompt. Its body is read as a single turn of a user with the prompt as its only
text, so that different prompts have different orders. A prompt that asks for a selection is never
one that asks for a reply, since the two begin differently.
-/

namespace ReconChat

namespace Gemini.Client

open Json (Value)

theorem parse_request_body (prompt : String) :
    Json.parse (requestBody prompt) =
      .ok (.object [("contents", .array [.object
        [("parts", .array [.object [("text", .string prompt)]]), ("role", .string "user")]])]) := by
  apply (Json.parse_compact _).trans rfl
  simp [Json.nestingLimit]

theorem request_body_injective {prompt other : String}
    (same : requestBody prompt = requestBody other) : prompt = other := by
  have read := congrArg Json.parse same
  rw [parse_request_body, parse_request_body] at read
  simpa using read

theorem order_injective {client : Client} {prompt other : String}
    (same : client.order prompt = client.order other) : prompt = other :=
  request_body_injective (Option.some.inj (congrArg Http.Order.body same))

end Gemini.Client

namespace Prompt

theorem head_append {front : String} {first : Char} (begins : front.toList.head? = some first)
    (rest : String) : (front ++ rest).toList.head? = some first := by
  rw [String.toList_append, List.head?_append, begins]
  rfl

theorem fallback_begins (query : String) : (fallback query).toList.head? = some 'T' := by
  have opening : "The user asked: \"".toList.head? = some 'T' := by decide
  unfold fallback
  exact head_append (head_append opening query) _

set_option maxRecDepth 10000 in
theorem selection_instructions_begin : selectionInstructions.toList.head? = some 'Y' := by
  have first : ∃ rest, selectionInstructions = String.ofList ('Y' :: rest) := ⟨_, rfl⟩
  obtain ⟨rest, same⟩ := first
  rw [same, String.toList_ofList, List.head?_cons]

theorem selection_begins (query schema guide : String) :
    (selection query schema guide).toList.head? = some 'Y' := by
  have opening : selectionOpening.toList.head? = some 'Y' := by
    unfold selectionOpening
    exact head_append (head_append (head_append selection_instructions_begin _) _) _
  unfold selection
  exact head_append (head_append (head_append (head_append opening schema) _) _) query

theorem fallback_ne_selection (question query schema guide : String) :
    fallback question ≠ selection query schema guide := by
  intro same
  have first := fallback_begins question
  rw [same, selection_begins] at first
  cases first

end Prompt

end ReconChat

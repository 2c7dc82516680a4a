import ReconChat.Agent.Live
import ReconChat.Proofs.Agent.Course
import ReconChat.Proofs.Gemini.Generation
import ReconChat.Proofs.Selection.Trimmed

/-!
What becomes of a prompt. A response of success whose body is decoded as a generation gives the
texts of its first candidate, joined and trimmed, unless the prompt was blocked or nothing is left.
Everything else is an error, and the first obstacle decides which. How a response comes about is
left to the network.
-/

namespace ReconChat

open Http (Network Response)
open Json (IsDocument Value)
open Json.Shape (Listed)

namespace Gemini

/-- The texts of the first candidate; a part without a text has none. -/
def Generation.texts (generation : Generation) : List String :=
  (generation.candidates.head?.getD []).filterMap id

def IsSuccess (response : Response) : Prop := 200 ≤ response.status ∧ response.status < 300

/-- A response of success with a whole body that is decoded as a generation. -/
inductive Delivers : Except Http.Failure Response → Generation → Prop where
  | delivers {response : Response} {body : List UInt8} {generation : Generation}
      (success : IsSuccess response) (whole : response.wholeBody = some body)
      (decoded : Generation.decode body = .ok generation) : Delivers (.ok response) generation

/-- What first stands in the way of a text. -/
inductive Obstacle : Except Http.Failure Response → GenerationError → Prop where
  | request (failure : Http.Failure) : Obstacle (.error failure) (.request failure)
  | status {response : Response} (failed : ¬IsSuccess response) :
      Obstacle (.ok response)
        (.status response.status ((response.wholeBody.map Text.Utf8.decodeLossy).getD ""))
  | body {response : Response} (success : IsSuccess response)
      (undecoded : ∀ generation, ¬Delivers (.ok response) generation) :
      Obstacle (.ok response) (.request .badBody)
  | blocked {answered : Except Http.Failure Response} {generation : Generation} {reason : String}
      (delivers : Delivers answered generation) (because : generation.blockReason = some reason) :
      Obstacle answered (.blocked reason)
  | noText {answered : Except Http.Failure Response} {generation : Generation}
      (delivers : Delivers answered generation) (free : generation.blockReason = none)
      (blank : Text.trim (String.join generation.texts) = "") : Obstacle answered .noText

inductive Yields : Except Http.Failure Response → String → Prop where
  | yields {answered : Except Http.Failure Response} {generation : Generation}
      (delivers : Delivers answered generation) (free : generation.blockReason = none)
      (some : Text.trim (String.join generation.texts) ≠ "") :
      Yields answered (Text.trim (String.join generation.texts))

/-- A response of success whose body is JSON with the given parts in its first candidate. -/
structure Carries (response : Response) (parts : List (Option String)) : Prop where
  success : IsSuccess response
  document : ∃ text document further, response.wholeBody = some (Text.Utf8.encode text) ∧
    IsDocument text document ∧ IsGeneration document ⟨none, parts :: further⟩

namespace Client

variable {answered : Except Http.Failure Response} {response : Response}

theorem is_success_iff : response.isSuccess = true ↔ IsSuccess response := by
  simp [Response.isSuccess, IsSuccess]

theorem read_result_of_delivers {generation : Generation}
    (delivers : Delivers answered generation) :
    readResult answered =
      match generation.blockReason with
      | some reason => .error (.blocked reason)
      | none =>
          if Text.trim (String.join generation.texts) = "" then .error .noText
          else .ok (Text.trim (String.join generation.texts)) := by
  cases delivers with
  | delivers success whole decoded =>
      unfold readResult readResponse
      simp only [is_success_iff.2 success, whole, decoded, Generation.text, Generation.texts,
        String.isEmpty_iff, Bool.not_true, Bool.false_eq_true, if_false]
      rfl

theorem read_result_of_obstacle {error : GenerationError} (obstacle : Obstacle answered error) :
    readResult answered = .error error := by
  cases obstacle with
  | request failure => rfl
  | status failed =>
      unfold readResult readResponse
      simp only [Bool.eq_false_iff.2 (mt is_success_iff.1 failed), Bool.not_false, if_true]
  | @body response success undecoded =>
      unfold readResult readResponse
      simp only [is_success_iff.2 success, Bool.not_true, Bool.false_eq_true, if_false]
      cases whole : response.wholeBody with
      | none => rfl
      | some body =>
          dsimp only
          cases decoded : Generation.decode body with
          | error fault => rfl
          | ok generation => exact absurd (.delivers success whole decoded) (undecoded generation)
  | blocked delivers because => rw [read_result_of_delivers delivers, because]
  | noText delivers free blank =>
      rw [read_result_of_delivers delivers, free]
      exact if_pos blank

theorem read_result_of_yields {text : String} (yields : Yields answered text) :
    readResult answered = .ok text := by
  cases yields with
  | yields delivers free some =>
      rw [read_result_of_delivers delivers, free]
      exact if_neg some

theorem obstacle_or_yields (answered : Except Http.Failure Response) :
    (∃ error, Obstacle answered error) ∨ ∃ text, Yields answered text := by
  cases answered with
  | error failure => exact .inl ⟨_, .request failure⟩
  | ok response =>
      by_cases success : IsSuccess response
      · by_cases delivered : ∃ generation, Delivers (.ok response) generation
        · obtain ⟨generation, delivers⟩ := delivered
          cases free : generation.blockReason with
          | some reason => exact .inl ⟨_, .blocked delivers free⟩
          | none =>
              by_cases blank : Text.trim (String.join generation.texts) = ""
              · exact .inl ⟨_, .noText delivers free blank⟩
              · exact .inr ⟨_, .yields delivers free blank⟩
        · exact .inl ⟨_, .body success (not_exists.1 delivered)⟩
      · exact .inl ⟨_, .status success⟩

theorem read_result_ok_iff (text : String) :
    readResult answered = .ok text ↔ Yields answered text := by
  constructor
  · intro read
    rcases obstacle_or_yields answered with ⟨error, obstacle⟩ | ⟨other, yields⟩
    · rw [read_result_of_obstacle obstacle] at read
      cases read
    · rw [read_result_of_yields yields] at read
      cases read
      exact yields
  · exact read_result_of_yields

theorem read_result_error_iff (error : GenerationError) :
    readResult answered = .error error ↔ Obstacle answered error := by
  constructor
  · intro read
    rcases obstacle_or_yields answered with ⟨other, obstacle⟩ | ⟨text, yields⟩
    · rw [read_result_of_obstacle obstacle] at read
      cases read
      exact obstacle
    · rw [read_result_of_yields yields] at read
      cases read
  · exact read_result_of_obstacle

theorem delivers_of_carries {parts : List (Option String)} (carries : Carries response parts) :
    ∃ generation, Delivers (.ok response) generation ∧ generation.blockReason = none ∧
      generation.texts = parts.filterMap id := by
  obtain ⟨text, document, further, whole, read, is⟩ := carries.document
  exact ⟨_, .delivers carries.success whole (Generation.decode_of_document read is), rfl, rfl⟩

/-- What a response carries is selected from as a whole, even if nothing is left of it. -/
theorem selection_of_carries {parts : List (Option String)} (carries : Carries response parts) :
    selectionOf (readResult (.ok response)) =
      Selection.parse (String.join (parts.filterMap id)) := by
  obtain ⟨generation, delivers, free, texts⟩ := delivers_of_carries carries
  rw [read_result_of_delivers delivers, free, texts]
  dsimp only
  rw [← Selection.parse_trim]
  split
  · next blank =>
      rw [blank]
      rfl
  · rfl

/-- A prompt gives a text exactly if the response yields it, and an error exactly if there is an
obstacle, the first one; parts that a response carries in its first candidate are given joined and
trimmed, and are selected from as a whole. -/
theorem generate_gives_first_candidate (client : Client) (prompt : String) (network : Network) :
    let answered := network.respond (client.order prompt)
    let result := (client.generate prompt network).1
    (∀ text, result = .ok text ↔ Yields answered text) ∧
    (∀ error, result = .error error ↔ Obstacle answered error) ∧
    (∀ response parts, answered = .ok response → Carries response parts →
      Text.trim (String.join (parts.filterMap id)) ≠ "" →
        result = .ok (Text.trim (String.join (parts.filterMap id)))) ∧
    ∀ query schema guide response parts,
      network.respond (client.order (Prompt.selection query schema guide)) = .ok response →
        Carries response parts →
          (client.languageModel.select query schema guide network).1 =
            Selection.parse (String.join (parts.filterMap id)) := by
  intro answered result
  have read : result = readResult answered := congrArg Prod.fst (generate_eq client prompt network)
  refine ⟨?_, ?_, ?_, ?_⟩
  · intro text
    rw [read, read_result_ok_iff]
  · intro error
    rw [read, read_result_error_iff]
  · intro response parts given carries some
    obtain ⟨generation, delivers, free, texts⟩ := delivers_of_carries carries
    rw [← texts] at some ⊢
    rw [read, given]
    exact read_result_of_yields (.yields delivers free some)
  · intro query schema guide response parts given carries
    rw [← selection_of_carries carries, ← given]
    exact congrArg Prod.fst (generate_then selectionOf client _ network)

/-- An object is split between two parts, among parts without a text, unknown members and further
candidates without parts; it is given and selected whole. -/
theorem split_object_is_selected :
    let opening := "\n \x7b\"type\":\"documentation\",\"ans"
    let closing := "wer\":\"A\"\x7d\n"
    let content : Value := .object
      [("role", .string "model"),
        ("parts", .array
          [.object [("text", .string opening)], .object [("thought", .bool true), ("text", .null)],
            .object [("thought", .bool true)],
            .object [("text", .string closing), ("thought", .null)]])]
    let document : Value := .object
      [("usageMetadata", .object [("candidates", .number (.integer 7))]),
        ("candidates", .array
          [.object [("content", content), ("index", .number (.integer 0))],
            .object [("content", .null)], .array [.array []]])]
    let client := ofSettings ⟨none, "m", "http://gemini", none⟩ "key"
    let network : Network :=
      ⟨fun _ => true, [.response ⟨200, none, none, Text.Utf8.encode document.compact, true⟩], []⟩
    (client.generate (Prompt.selection "q" "s" "") network).1 =
        .ok (Text.trim (opening ++ closing)) ∧
      (client.languageModel.select "q" "s" "" network).1 =
        .ok (some (.documentation (some "A") none)) := by
  intro opening closing content document client network
  have contentIs : IsContent content [some opening, none, none, some closing] := by
    apply IsContent.content (.behind (by decide) (.here (by simp)))
    apply Listed.items
    refine .cons (.part (.here (by simp)) (.given (.text opening))) ?_
    refine .cons (.part (.behind (by decide) (.here (by simp))) .null) ?_
    refine .cons (.part (.behind (by decide) (.nothing (by simp))) .missing) ?_
    exact .cons (.part (.here (by simp)) (.given (.text closing))) .nil
  have is : IsGeneration document ⟨none, [[some opening, none, none, some closing], [], []]⟩ := by
    apply IsGeneration.object (.behind (by decide) (.here (by simp))) (.nothing (by simp)) _
      .missing
    apply Listed.items
    refine .cons (.candidate (.here (by simp)) (.given contentIs)) ?_
    refine .cons (.candidate (.here (by simp)) .null) ?_
    exact .cons (.candidate (.alone (.array [])) (.given .nothing)) .nil
  have fits : document.Fits 8 := by
    simp [document, content, Json.Number.IsExact, Json.significandBound]
  have whole (body : List UInt8) :
      Response.wholeBody ⟨200, none, none, body, true⟩ = some body := rfl
  have carries : Carries ⟨200, none, none, Text.Utf8.encode document.compact, true⟩
      [some opening, none, none, some closing] :=
    ⟨⟨by decide, by decide⟩, _, _, _, whole _, Json.is_document_compact fits, is⟩
  have answered : network.respond (client.order (Prompt.selection "q" "s" "")) =
      .ok ⟨200, none, none, Text.Utf8.encode document.compact, true⟩ :=
    Http.respond_of_success (by decide +kernel) rfl rfl rfl
  have joined : String.join ([some opening, none, none, some closing].filterMap id) =
      opening ++ closing := by
    decide
  have visible : Text.trim (opening ++ closing) ≠ "" := by decide
  have selected : Selection.parse (opening ++ closing) =
      .ok (some (.documentation (some "A") none)) := by
    decide +kernel
  clear_value network opening closing
  obtain ⟨_, _, gives, selects⟩ :=
    generate_gives_first_candidate client (Prompt.selection "q" "s" "") network
  have given := gives _ _ answered carries
  have chosen := selects "q" "s" "" _ _ answered carries
  rw [joined] at given chosen
  exact ⟨given visible, chosen.trans selected⟩

end Client

end Gemini

end ReconChat

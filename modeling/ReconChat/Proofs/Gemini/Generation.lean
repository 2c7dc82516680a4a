import ReconChat.Gemini.Generation
import ReconChat.Proofs.Json.Stated
import ReconChat.Proofs.Text.Utf8

/-!
Documents that are generations. The first candidate is told by what the document states, part by
part; a member under any other name, of a part as of the whole, may be any JSON that can be read.
A text that is such a document is decoded as its generation. What a document that is decoded looks
like is not said.
-/

namespace ReconChat

namespace Json

/-- A text that is JSON, whatever its depth. -/
def IsDocument (text : String) (document : Value) : Prop :=
  ∃ depth, complete (readValue depth text.toList) = .ok document

theorem is_document_compact {depth : Nat} {document : Value} (fits : document.Fits depth) :
    IsDocument document.compact document := by
  refine ⟨depth, complete_eq_ok.2 ⟨[], ?_, rfl⟩⟩
  rw [Value.compact, String.toList_ofList]
  exact read_value_written fits [] rfl

theorem spell_chars (chars : List Char) (escaping : Bool) (done : List Char) :
    spellPieces (chars.map .char) escaping done = chars.reverse ++ done := by
  induction chars generalizing escaping done with
  | nil => rfl
  | cons char chars induction =>
      rw [List.map_cons, spellPieces, induction, List.reverse_cons, List.append_assoc,
        List.singleton_append]

theorem chars_of_bytes_encode (text : String) :
    charsOfBytes (Text.Utf8.encode text) = text.toList := by
  unfold charsOfBytes Text.Utf8.pieces Text.Utf8.encode
  rw [Text.Utf8.pieces_from_encode _ _ _ (Nat.le_refl _), List.reverse_nil, List.nil_append,
    spell_chars, List.append_nil, List.reverse_reverse]

end Json

namespace Gemini

open Json (Value IsDocument)
open Json.Shape (InOrder Listed Perhaps States TakesAs)

inductive IsText : Value → String → Prop where
  | text (text : String) : IsText (.string text) text

inductive IsPart : Value → Option String → Prop where
  | part {part : Value} {said : Option Value} {text : Option String}
      (states : States "text" part said) (is : Perhaps IsText said text) : IsPart part text

inductive IsContent : Value → List (Option String) → Prop where
  | content {content : Value} {said : Option Value} {parts : List (Option String)}
      (states : States "parts" content said) (are : Listed IsPart said parts) :
      IsContent content parts
  | nothing : IsContent (.array []) []

/-- A candidate that has parts, or no content and so no parts. -/
inductive IsCandidate : Value → List (Option String) → Prop where
  | candidate {candidate : Value} {said : Option Value} {parts : Option (List (Option String))}
      (states : States "content" candidate said) (is : Perhaps IsContent said parts) :
      IsCandidate candidate (parts.getD [])

inductive IsFeedback : Value → Option String → Prop where
  | feedback {feedback : Value} {said : Option Value} {reason : Option String}
      (states : States "blockReason" feedback said) (is : Perhaps IsText said reason) :
      IsFeedback feedback reason

/-- A generation as an object, or as a list of its two fields. -/
inductive IsGeneration : Value → Generation → Prop where
  | object {members : List (String × Value)} {candidates feedback : Option Value}
      {lists : List (List (Option String))} {reason : Option (Option String)}
      (candidatesStated : States "candidates" (.object members) candidates)
      (feedbackStated : States "promptFeedback" (.object members) feedback)
      (are : Listed IsCandidate candidates lists) (is : Perhaps IsFeedback feedback reason) :
      IsGeneration (.object members) ⟨reason.join, lists⟩
  | list {candidates feedback : Value} {lists : List (List (Option String))}
      {reason : Option (Option String)} (are : Listed IsCandidate (some candidates) lists)
      (is : Perhaps IsFeedback (some feedback) reason) :
      IsGeneration (.array [candidates, feedback]) ⟨reason.join, lists⟩

namespace Generation

theorem takes_text : TakesAs Json.Shape.text IsText IsText := by
  rintro _ said ⟨⟩
  exact ⟨.string said, Json.Shape.takes_text said, .text said⟩

theorem string_of_perhaps {said : Option Value} {text : Option String}
    (is : Perhaps IsText said text) : said.bind Value.string? = text := by
  cases is with
  | missing => rfl
  | null => rfl
  | given is =>
      cases is
      rfl

theorem takes_part : TakesAs partShape IsPart (partText · = ·) := by
  rintro part text ⟨states, is⟩
  obtain ⟨told, has, means⟩ := Json.Shape.has_perhaps takes_text nofun "text" is
  obtain ⟨given, takes, same⟩ := Json.Shape.takes_one states has
  refine ⟨given, takes, ?_⟩
  change (given.member? "text").bind Value.string? = text
  rw [show given.member? "text" = told from same]
  exact string_of_perhaps means

theorem items_of_listed {Meant : Type} {meaning : Value → Meant} {said : Option Value}
    {meants : List Meant} (listed : Listed (meaning · = ·) said meants) :
    (items said).map meaning = meants := by
  cases listed with
  | missing => rfl
  | items are =>
      induction are with
      | nil => rfl
      | cons same _ induction =>
          change meaning _ :: List.map meaning _ = _
          rw [same]
          exact congrArg _ induction

def contentParts (content : Value) : List (Option String) :=
  (items (content.member? "parts")).map partText

theorem takes_content : TakesAs contentShape IsContent (contentParts · = ·) := by
  intro content parts is
  cases is with
  | content states are =>
      obtain ⟨told, has, means⟩ := Json.Shape.has_listed takes_part "parts" are
      obtain ⟨given, takes, same⟩ := Json.Shape.takes_one states has
      refine ⟨given, takes, ?_⟩
      change (items (given.member? "parts")).map partText = parts
      rw [show given.member? "parts" = told from same]
      exact items_of_listed means
  | nothing =>
      refine ⟨.object [], Json.Shape.takes_in_order (.ended ?_), rfl⟩
      intro field known
      cases List.mem_singleton.1 known
      rfl

theorem takes_candidate : TakesAs candidateShape IsCandidate (candidateParts · = ·) := by
  rintro candidate _ ⟨states, is⟩
  next said parts =>
  have notNull (parts : List (Option String)) : ¬IsContent .null parts := by
    rintro (⟨states, _⟩ | _)
    cases states
  obtain ⟨told, has, means⟩ := Json.Shape.has_perhaps takes_content notNull "content" is
  obtain ⟨given, takes, same⟩ := Json.Shape.takes_one states has
  refine ⟨given, takes, ?_⟩
  change (items ((given.member? "content").bind (Value.member? "parts"))).map partText =
    parts.getD []
  rw [show given.member? "content" = told from same]
  cases means with
  | missing => rfl
  | null => rfl
  | given means =>
      cases means
      rfl

def feedbackReason (feedback : Value) : Option String :=
  (feedback.member? "blockReason").bind Value.string?

theorem takes_feedback : TakesAs feedbackShape IsFeedback (feedbackReason · = ·) := by
  rintro feedback reason ⟨states, is⟩
  obtain ⟨told, has, means⟩ := Json.Shape.has_perhaps takes_text nofun "blockReason" is
  obtain ⟨given, takes, same⟩ := Json.Shape.takes_one states has
  refine ⟨given, takes, ?_⟩
  change (given.member? "blockReason").bind Value.string? = reason
  rw [show given.member? "blockReason" = told from same]
  exact string_of_perhaps means

theorem of_value_of_fields {value : Value} {candidates feedback : Option Value}
    {lists : List (List (Option String))} {reason : Option (Option String)}
    (candidatesRead : value.member? "candidates" = candidates)
    (feedbackRead : value.member? "promptFeedback" = feedback)
    (are : Listed (candidateParts · = ·) candidates lists)
    (is : Perhaps (feedbackReason · = ·) feedback reason) :
    ofValue value = some ⟨reason.join, lists⟩ := by
  unfold ofValue
  rw [candidatesRead, feedbackRead, items_of_listed are]
  cases is with
  | missing => rfl
  | null => rfl
  | given means =>
      cases means
      rfl

theorem takes_generation : TakesAs shape IsGeneration (ofValue · = some ·) := by
  intro document generation is
  have notNull (reason : Option String) : ¬IsFeedback .null reason := by
    rintro ⟨states, _⟩
    cases states
  cases is with
  | @object members candidates feedback lists reason candidatesStated feedbackStated are is =>
      obtain ⟨first, hasCandidates, areRead⟩ :=
        Json.Shape.has_listed takes_candidate "candidates" are
      obtain ⟨second, hasFeedback, isRead⟩ :=
        Json.Shape.has_perhaps takes_feedback notNull "promptFeedback" is
      let said (name : String) : Option Value :=
        if name = "candidates" then candidates else feedback
      let told (name : String) : Option Value := if name = "candidates" then first else second
      obtain ⟨given, takes, same⟩ := @Json.Shape.takes_stated _ members said told
        (List.forall_mem_cons.2 ⟨candidatesStated, List.forall_mem_singleton.2 feedbackStated⟩)
        (List.forall_mem_cons.2 ⟨hasCandidates, List.forall_mem_singleton.2 hasFeedback⟩)
      refine ⟨given, takes, ?_⟩
      have candidatesRead : given.member? "candidates" = first := same _ List.mem_cons_self
      have feedbackRead : given.member? "promptFeedback" = second :=
        same _ (List.mem_cons_of_mem _ List.mem_cons_self)
      exact of_value_of_fields candidatesRead feedbackRead areRead isRead
  | list are is =>
      obtain ⟨_, hasCandidates, areRead⟩ := Json.Shape.has_listed takes_candidate "candidates" are
      obtain ⟨_, hasFeedback, isRead⟩ :=
        Json.Shape.has_perhaps takes_feedback notNull "promptFeedback" is
      cases hasCandidates with
      | value candidatesTaken =>
          cases hasFeedback with
          | value feedbackTaken =>
              have nothing : InOrder [] [] [] := .ended nofun
              have fields := InOrder.field candidatesTaken (.field feedbackTaken nothing)
              exact ⟨_, Json.Shape.takes_in_order fields,
                of_value_of_fields rfl rfl areRead isRead⟩

theorem decode_of_document {text : String} {document : Value} {generation : Generation}
    (read : IsDocument text document) (is : IsGeneration document generation) :
    decode (Text.Utf8.encode text) = .ok generation := by
  obtain ⟨depth, read⟩ := read
  obtain ⟨given, takes, means⟩ := takes_generation document generation is
  unfold decode
  rw [Json.chars_of_bytes_encode]
  exact Json.Shape.decode_document read takes means

end Generation

end Gemini

end ReconChat

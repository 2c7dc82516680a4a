import ReconChat.Proofs.Json.Canonical
import ReconChat.ToolCall.Basic

/-!
The members of an object as a tool call reads them: texts, and parameters that are rendered one by
one in the order of their names. Rendering ends at the first parameter that no text can be made
of, and in sorted members that one has the least name. Which of its rules a call is read by is
left out.
-/

namespace ReconChat.ToolCall

open Json (Value)

/-- A value that no text can be made of. -/
inductive IsCompound : Value → Prop where
  | array (items : List Value) : IsCompound (.array items)
  | object (members : List (String × Value)) : IsCompound (.object members)

inductive Renders : Value → String → Prop where
  | string (text : String) : Renders (.string text) text
  | number (number : Json.Number) : Renders (.number number) number.text
  | affirmed : Renders (.bool true) "true"
  | denied : Renders (.bool false) "false"

theorem rendered_text_iff {value : Value} {text : String} :
    rendered value = .text text ↔ Renders value text := by
  constructor
  · intro same
    rw [rendered.eq_def] at same
    split at same <;> cases same <;> constructor
  · rintro ⟨_⟩ <;> rfl

theorem rendered_absent_iff {value : Value} : rendered value = .absent ↔ value = .null := by
  constructor
  · intro same
    rw [rendered.eq_def] at same
    split at same <;> cases same
    rfl
  · rintro rfl
    rfl

theorem rendered_unusable_iff {value : Value} :
    rendered value = .unusable ↔ IsCompound value := by
  constructor
  · intro same
    rw [rendered.eq_def] at same
    split at same <;> cases same <;> constructor
  · rintro ⟨_⟩ <;> rfl

/-- Null says nothing, a compound value nothing usable, and any other one text. -/
theorem renders_iff {value : Value} (usable : ¬IsCompound value) :
    (∃ text, Renders value text) ↔ value ≠ .null := by
  rw [ne_eq, ← rendered_absent_iff]
  rw [← rendered_unusable_iff] at usable
  simp only [← rendered_text_iff]
  cases said : rendered value with
  | text text => simp
  | absent => simp
  | unusable => exact absurd said usable

theorem rendered_canonical (value : Value) : rendered value.canonical = rendered value := by
  cases value <;> rfl

theorem compound_canonical_iff {value : Value} : IsCompound value.canonical ↔ IsCompound value := by
  rw [← rendered_unusable_iff, rendered_canonical, rendered_unusable_iff]

theorem renders_canonical_iff {value : Value} {text : String} :
    Renders value.canonical text ↔ Renders value text := by
  rw [← rendered_text_iff, rendered_canonical, rendered_text_iff]

theorem text_member_canonical (name : String) (members : List (String × Value)) :
    textMember name (Value.canonicalMembers members []) =
      (latest? name members).bind Value.string? := by
  rw [textMember, Value.latest_canonical_members _ _ List.Pairwise.nil, latest?, Option.or_none]
  cases latest? name members with
  | none => rfl
  | some value => exact value.string_canonical

def renderedText (value : Json.Value) : Option String :=
  match rendered value with
  | .text text => some text
  | _ => none

theorem rendered_text_eq_some_iff {value : Value} {text : String} :
    renderedText value = some text ↔ Renders value text := by
  rw [← rendered_text_iff, renderedText]
  cases rendered value <;> simp

theorem latest_render_parameters {members : List (String × Json.Value)}
    {table result : NameTable String} (increase : NamesIncrease members)
    (usable : renderParameters members table = .ok result) (name : String) :
    latest? name result.entries =
      ((latest? name members).bind renderedText).or (latest? name table.entries) := by
  induction members generalizing table with
  | nil =>
      cases usable
      rfl
  | cons member members induction =>
      obtain ⟨other, value⟩ := member
      obtain ⟨first, tail⟩ := List.pairwise_cons.1 increase
      rw [latest_cons]
      rw [renderParameters] at usable
      by_cases same : name = other
      · subst same
        rw [latest_eq_none first, Option.none_or, if_pos rfl, Option.bind_some, renderedText]
        split at usable
        · next text saying =>
            rw [induction tail usable, latest_eq_none first, NameTable.put,
              latest_put_entry _ _ table.sorted, if_pos rfl, saying]
            rfl
        · next saying =>
            rw [induction tail usable, latest_eq_none first, saying]
            rfl
        · cases usable
      · rw [if_neg same, Option.or_none]
        split at usable
        · rw [induction tail usable, NameTable.put, latest_put_entry _ _ table.sorted,
            if_neg same]
        · exact induction tail usable
        · cases usable

/-- Rendering sorted members takes all of them, or stops at the first that is unusable. -/
theorem render_parameters_settled {members : List (String × Value)}
    (increase : NamesIncrease members) (table : NameTable String) :
    (∃ result, renderParameters members table = .ok result ∧
      ∀ pair ∈ members, ¬IsCompound pair.2) ∨
    ∃ name value, renderParameters members table = .error (.invalidParameter name) ∧
      (name, value) ∈ members ∧ IsCompound value ∧
      ∀ pair ∈ members, IsCompound pair.2 → pair.1 ≠ name → name < pair.1 := by
  induction members generalizing table with
  | nil => exact .inl ⟨table, rfl, by simp⟩
  | cons member members induction =>
      obtain ⟨name, value⟩ := member
      obtain ⟨first, tail⟩ := List.pairwise_cons.1 increase
      by_cases compound : IsCompound value
      · refine .inr ⟨name, value, ?_, List.mem_cons_self, compound, ?_⟩
        · rw [renderParameters, rendered_unusable_iff.2 compound]
        · intro pair member _ other
          rcases List.mem_cons.1 member with rfl | later
          · exact absurd rfl other
          · exact first pair later
      · -- A member that is not compound is taken or passed over; either way the rest decides.
        obtain ⟨next, goesOn⟩ : ∃ next, renderParameters ((name, value) :: members) table =
            renderParameters members next := by
          rw [renderParameters]
          split
          · exact ⟨_, rfl⟩
          · exact ⟨_, rfl⟩
          · next unusable => exact absurd (rendered_unusable_iff.1 unusable) compound
        rw [goesOn]
        rcases induction tail next with
          ⟨result, done, usable⟩ | ⟨least, found, stops, inside, unusable, before⟩
        · exact .inl ⟨result, done, List.forall_mem_cons.2 ⟨compound, usable⟩⟩
        · refine .inr ⟨least, found, stops, List.mem_cons_of_mem _ inside, unusable, ?_⟩
          exact List.forall_mem_cons.2 ⟨fun wrong => absurd wrong compound, before⟩

theorem parameters_of_value {members : List (String × Json.Value)} {call : DataCall}
    (called : ofValue (.object members) = .ok (.data call)) :
    renderParameters (parameterMembers members) .empty = .ok call.parameters := by
  rw [ofValue] at called
  split at called
  · cases called
  · rw [dataOfMembers] at called
    split at called
    · cases called
    · dsimp only at called
      split at called
      · split at called
        · cases called
        · next rendered =>
            cases called
            exact rendered
      · cases called

end ReconChat.ToolCall

import ReconChat.Proofs.Json.Canonical
import ReconChat.Proofs.Json.Spelling
import ReconChat.Proofs.Json.Written

/-!
The nesting of values. What is read nests no deeper than its reader allows, and sorting members does
not make it deeper. A parsed value is its own canonical form, so that it fits, and is read back from
what is written of it, if its numbers are integers of 64 bits.
-/

namespace ReconChat.Json

namespace Value

inductive Nests : Nat → Value → Prop where
  | null {depth : Nat} : Nests depth .null
  | bool {depth : Nat} (value : Bool) : Nests depth (.bool value)
  | number {depth : Nat} (number : Number) : Nests depth (.number number)
  | string {depth : Nat} (text : String) : Nests depth (.string text)
  | array {depth : Nat} {items : List Value} (nest : ∀ item ∈ items, Nests depth item) :
      Nests (depth + 1) (.array items)
  | object {depth : Nat} {members : List (String × Value)}
      (nest : ∀ member ∈ members, Nests depth member.2) : Nests (depth + 1) (.object members)

/-- Values whose numbers are integers of 64 bits, signed or unsigned. -/
inductive IsExact : Value → Prop where
  | null : IsExact .null
  | bool (value : Bool) : IsExact (.bool value)
  | number {number : Number} (exact : number.IsExact) : IsExact (.number number)
  | string (text : String) : IsExact (.string text)
  | array {items : List Value} (exact : ∀ item ∈ items, IsExact item) : IsExact (.array items)
  | object {members : List (String × Value)} (exact : ∀ member ∈ members, IsExact member.2) :
      IsExact (.object members)

theorem fits_iff {depth : Nat} {value : Value} :
    value.Fits depth ↔ value.Nests depth ∧ value.IsExact := by
  constructor
  · intro fits
    induction fits with
    | null => exact ⟨.null, .null⟩
    | bool value => exact ⟨.bool value, .bool value⟩
    | number exact => exact ⟨.number _, .number exact⟩
    | string text => exact ⟨.string text, .string text⟩
    | array fit induction =>
        exact ⟨.array fun item member => (induction item member).1,
          .array fun item member => (induction item member).2⟩
    | object fit induction =>
        exact ⟨.object fun member inside => (induction member inside).1,
          .object fun member inside => (induction member inside).2⟩
  · rintro ⟨nests, exact⟩
    induction nests with
    | null => exact .null
    | bool value => exact .bool value
    | number number =>
        cases exact with
        | number exact => exact .number exact
    | string text => exact .string text
    | array nest induction =>
        cases exact with
        | array exact => exact .array fun item member => induction item member (exact item member)
    | object nest induction =>
        cases exact with
        | object exact =>
            exact .object fun member inside => induction member inside (exact member inside)

theorem nests_canonical {depth : Nat} {value : Value} (nests : value.Nests depth) :
    value.canonical.Nests depth := by
  induction nests with
  | null => exact .null
  | bool value => exact .bool value
  | number number => exact .number number
  | string text => exact .string text
  | array nest induction =>
      apply Nests.array
      intro item member
      obtain ⟨source, inside, rfl⟩ := mem_canonical_items member
      exact induction source inside
  | object nest induction =>
      apply Nests.object
      intro pair member
      rcases mem_canonical_members member with nothing | ⟨value, inside, same⟩
      · cases nothing
      · rw [same]
        exact induction _ inside

end Value

/-- Each bracket takes a level of what the reader allows. -/
theorem nests_of_read_value {depth : Nat} {chars rest : List Char} {value : Value}
    (read : readValue depth chars = .ok (value, rest)) : value.Nests depth := by
  have reading := reading_of_read_value read
  generalize dropSpace chars = spaced at reading
  cases reading with
  | null _ => exact .null
  | true _ => exact .bool true
  | false _ => exact .bool false
  | string _ => exact .string _
  | negative _ => exact .number _
  | natural _ _ => exact .number _
  | @array depth _ _ items folded =>
      apply Value.Nests.array
      intro item member
      refine fold_items_holds (fun items => ∀ item ∈ items, item.Nests depth) ?_ (by simp) folded
        item (List.mem_reverse.1 member)
      intro items next start after nest entry
      obtain ⟨_, taken, rfl⟩ := value_of_read_item entry
      exact List.forall_mem_cons.2 ⟨nests_of_read_value taken, nest⟩
  | @object depth _ _ members folded =>
      apply Value.Nests.object
      intro member inside
      refine fold_members_holds (fun members => ∀ member ∈ members, member.2.Nests depth) ?_
        (by simp) folded member (List.mem_reverse.1 inside)
      intro members next name start after nest entry
      obtain ⟨_, _, _, taken, rfl⟩ := value_of_read_member entry
      exact List.forall_mem_cons.2 ⟨nests_of_read_value taken, nest⟩
termination_by depth

theorem canonical_of_parse {text : String} {value : Value} (parsed : parse text = .ok value) :
    value.canonical = value ∧ value.Nests nestingLimit := by
  obtain ⟨document, read, rfl⟩ := map_eq_ok parsed
  obtain ⟨rest, given, _⟩ := complete_eq_ok.1 read
  exact ⟨document.canonical_canonical, Value.nests_canonical (nests_of_read_value given)⟩

end ReconChat.Json

import ReconChat.Json.Shape
import ReconChat.Proofs.Json.Spelling

/-!
What a record holds once it is read, from an object or from a list: entries under the names of
its fields, no name twice, each with a value that the shape of its field gives. Members under other
names are not among them. Which fields may be missing is not said here.
-/

namespace ReconChat.Json.Shape

def Gives (shape : Reader) (value : Value) : Prop :=
  ∃ chars rest, shape chars = .ok (value, rest)

/-- Entries of a record, whatever their order is. -/
structure Holds (fields : List Field) (entries : List (String × Value)) : Prop where
  nodup : (entries.map (·.1)).Nodup
  given : ∀ entry ∈ entries, ∃ field ∈ fields, field.name = entry.1 ∧ Gives field.shape entry.2

section Shapes

variable {chars rest : List Char} {value : Value}

theorem text_gives (read : text chars = .ok (value, rest)) : ∃ given, value = .string given := by
  rw [text] at read
  split at read
  · obtain ⟨given, _, same⟩ := map_eq_ok read
    exact ⟨given.1, (congrArg Prod.fst same).symm⟩
  · cases read

theorem nothing_gives (read : nothing chars = .ok (value, rest)) : value = .null := by
  rw [nothing] at read
  split at read
  · obtain ⟨_, _, same⟩ := map_eq_ok read
    exact (congrArg Prod.fst same).symm
  · cases read

theorem optional_gives {shape : Reader} (gives : Gives (optional shape) value) :
    value = .null ∨ Gives shape value := by
  obtain ⟨chars, rest, read⟩ := gives
  rw [optional] at read
  split at read
  · exact .inl (nothing_gives read)
  · exact .inr ⟨_, _, read⟩

end Shapes

variable {fields : List Field}

theorem Holds.reverse {entries : List (String × Value)} (holds : Holds fields entries) :
    Holds fields entries.reverse where
  nodup := by
    rw [List.map_reverse]
    exact List.nodup_reverse.2 holds.nodup
  given entry member := holds.given entry (List.mem_reverse.1 member)

theorem member_holds {done next : List (String × Value)} {name : String} {chars rest : List Char}
    (holds : Holds fields done) (read : member fields done name chars = .ok (next, rest)) :
    Holds fields next := by
  rw [member] at read
  cases known : fields.find? (·.name = name) with
  | none =>
      rw [known] at read
      dsimp only at read
      split at read
      · cases read
      · obtain ⟨_, _, same⟩ := map_eq_ok read
        cases same
        exact holds
  | some field =>
      rw [known] at read
      dsimp only at read
      split at read
      · cases read
      · next fresh =>
          split at read
          · cases read
          · split at read
            · cases read
            · next value after shaped =>
                cases read
                have named : field.name = name := by simpa using List.find?_some known
                have absent : name ∉ done.map (·.1) := by simpa using fresh
                constructor
                · exact List.nodup_cons.2 ⟨absent, holds.nodup⟩
                · intro entry inside
                  rcases List.mem_cons.1 inside with rfl | earlier
                  · exact ⟨field, List.mem_of_find?_eq_some known, named, _, _, shaped⟩
                  · exact holds.given entry earlier

/-- Fields in a list stand in their order, so that what is done has the names in front. -/
theorem fields_in_order_hold {all : List Field} {first : Bool} {done : List (String × Value)}
    {chars rest : List Char} {value : Value}
    (names : ((done.reverse.map (·.1)) ++ fields.map (·.name)).Nodup)
    (known : ∀ field ∈ fields, field ∈ all)
    (given : ∀ entry ∈ done, ∃ field ∈ all, field.name = entry.1 ∧ Gives field.shape entry.2)
    (read : fieldsInOrder fields first done chars = .ok (value, rest)) :
    ∃ entries, value = .object entries ∧ Holds all entries := by
  induction fields generalizing first done chars with
  | nil =>
      rw [fieldsInOrder] at read
      obtain ⟨_, _, same⟩ := map_eq_ok read
      cases same
      refine ⟨done.reverse, rfl, by simpa using names, ?_⟩
      intro entry member
      exact given entry (List.mem_reverse.1 member)
  | cons field fields induction =>
      rw [fieldsInOrder] at read
      split at read
      · cases read
      · split at read
        · cases read
          refine ⟨done.reverse, rfl, (List.nodup_append.1 names).1, ?_⟩
          intro entry member
          exact given entry (List.mem_reverse.1 member)
        · cases read
      · split at read
        · cases read
        · next shaped =>
            -- The name of the field goes from those to come to those that are done.
            apply induction _ _ _ read
            · simpa using names
            · intro other later
              exact known other (List.mem_cons_of_mem _ later)
            · intro entry inside
              rcases List.mem_cons.1 inside with rfl | earlier
              · exact ⟨field, known field List.mem_cons_self, rfl, _, _, shaped⟩
              · exact given entry earlier

theorem record_holds {chars rest : List Char} {value : Value}
    (distinct : (fields.map (·.name)).Nodup) (read : record fields chars = .ok (value, rest)) :
    ∃ entries, value = .object entries ∧ Holds fields entries := by
  rw [record] at read
  split at read
  · split at read
    · cases read
    · next folded =>
        split at read
        · cases read
          have none : Holds fields [] := ⟨List.nodup_nil, by simp⟩
          exact ⟨_, rfl, (fold_members_holds (Holds fields) member_holds none folded).reverse⟩
        · cases read
  · exact fields_in_order_hold (by simpa using distinct) (fun _ member => member) (by simp) read
  · cases read

theorem record_of_one {field : Field} {chars rest : List Char} {value : Value}
    (read : record [field] chars = .ok (value, rest)) :
    value = .object [] ∨
      ∃ given, value = .object [(field.name, given)] ∧ Gives field.shape given := by
  obtain ⟨entries, rfl, holds⟩ := record_holds (by simp) read
  have named (entry : String × Value) (member : entry ∈ entries) :
      field.name = entry.1 ∧ Gives field.shape entry.2 := by
    simpa using holds.given entry member
  cases entries with
  | nil => exact .inl rfl
  | cons entry others =>
      cases others with
      | nil =>
          obtain ⟨same, gives⟩ := named entry (by simp)
          exact .inr ⟨entry.2, by rw [same], gives⟩
      | cons other others =>
          have twice : entry.1 = other.1 :=
            (named entry (by simp)).1.symm.trans (named other (by simp)).1
          have apart := holds.nodup
          simp [twice] at apart

end ReconChat.Json.Shape

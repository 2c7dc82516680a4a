import ReconChat.Proofs.Json.Written

/-!
Indented values. The indented form of a value is read back as the value at every depth of
indentation, under the same conditions as the compact form: its numbers are integers of 64 bits and
it does not nest too deeply. Line feeds and indentation stand only where a reader drops space.
-/

namespace ReconChat.Json

theorem drop_space_spaces (count : Nat) (tail : List Char) :
    dropSpace (List.replicate count ' ' ++ tail) = dropSpace tail := by
  induction count with
  | zero => rfl
  | succ count induction =>
      rw [List.replicate_succ, List.cons_append, dropSpace, if_pos (by decide), induction]

theorem drop_space_new_line (depth : Nat) (tail : List Char) :
    dropSpace (Value.newLine depth tail) = dropSpace tail := by
  rw [Value.newLine, dropSpace, if_pos (by decide), drop_space_spaces]

theorem write_indented_begins {value : Value}
    (exact : ∀ number, value = .number number → number.IsExact) (depth : Nat) (tail : List Char) :
    ∃ first rest, value.writeIndented depth tail = first :: rest ∧ isSpace first = false ∧
      first ≠ ']' := by
  cases value with
  | array items => cases items <;> exact ⟨'[', _, rfl, rfl, by decide⟩
  | object members => cases members <;> exact ⟨'{', _, rfl, rfl, by decide⟩
  | _ =>
      obtain ⟨first, rest, written, visible, opens, _⟩ := write_begins exact tail
      exact ⟨first, rest, by rw [Value.writeIndented, written], visible, opens⟩

section Lines

variable (depth outer : Nat) (tail : List Char)

theorem stops_indent_items (items : List Value) :
    StopsNumeral (Value.indentItems items depth false (Value.newLine outer (']' :: tail))) := by
  cases items <;> rfl

theorem stops_indent_members (members : List (String × Value)) :
    StopsNumeral (Value.indentMembers members depth false (Value.newLine outer ('}' :: tail))) := by
  cases members <;> rfl

end Lines

theorem length_lt_new_line (depth : Nat) (tail : List Char) :
    tail.length < (Value.newLine depth tail).length := by
  simp only [Value.newLine, List.length_cons, List.length_append]
  omega

mutual

theorem length_le_write_indented : ∀ (value : Value) (depth : Nat) (tail : List Char),
    tail.length ≤ (value.writeIndented depth tail).length
  | .null, _, tail => length_le_write .null tail
  | .bool value, _, tail => length_le_write (.bool value) tail
  | .number number, _, tail => length_le_write (.number number) tail
  | .string text, _, tail => length_le_write (.string text) tail
  | .array [], _, tail => by
      simp only [Value.writeIndented, List.length_cons]
      omega
  | .object [], _, tail => by
      simp only [Value.writeIndented, List.length_cons]
      omega
  | .array (item :: items), depth, tail => by
      have later := length_le_indent_items (item :: items) (depth + 1) true
        (Value.newLine depth (']' :: tail))
      have line := length_lt_new_line depth (']' :: tail)
      simp only [Value.writeIndented, List.length_cons] at later line ⊢
      omega
  | .object (member :: members), depth, tail => by
      have later := length_le_indent_members (member :: members) (depth + 1) true
        (Value.newLine depth ('}' :: tail))
      have line := length_lt_new_line depth ('}' :: tail)
      simp only [Value.writeIndented, List.length_cons] at later line ⊢
      omega

/-- Every item has a line feed in front of it. -/
theorem length_le_indent_items :
    ∀ (items : List Value) (depth : Nat) (first : Bool) (tail : List Char),
      items.length + tail.length ≤ (Value.indentItems items depth first tail).length
  | [], _, _, tail => by simp [Value.indentItems]
  | item :: rest, depth, first, tail => by
      have value := length_le_write_indented item depth (Value.indentItems rest depth false tail)
      have later := length_le_indent_items rest depth false tail
      have line := length_lt_new_line depth
        (item.writeIndented depth (Value.indentItems rest depth false tail))
      cases first <;> simp [Value.indentItems] <;> omega

theorem length_le_indent_members :
    ∀ (members : List (String × Value)) (depth : Nat) (first : Bool) (tail : List Char),
      members.length + tail.length ≤ (Value.indentMembers members depth first tail).length
  | [], _, _, tail => by simp [Value.indentMembers]
  | (name, value) :: rest, depth, first, tail => by
      have written :=
        length_le_write_indented value depth (Value.indentMembers rest depth false tail)
      have later := length_le_indent_members rest depth false tail
      have line := length_lt_new_line depth (writeQuoted name
        (':' :: ' ' :: value.writeIndented depth (Value.indentMembers rest depth false tail)))
      have named : (value.writeIndented depth (Value.indentMembers rest depth false tail)).length ≤
          (writeQuoted name (':' :: ' ' :: value.writeIndented depth
            (Value.indentMembers rest depth false tail))).length := by
        simp only [writeQuoted, List.length_cons, List.length_append]
        omega
      cases first <;> simp [Value.indentMembers] <;> omega

end

def ReadsIndented (reader : List Char → Result Value) (value : Value) : Prop :=
  ∀ indent tail, StopsNumeral tail → reader (value.writeIndented indent tail) = .ok (value, tail)

section Fold

variable {depth : Nat} (indent outer : Nat) (tail : List Char)

theorem fold_items_indented {items : List Value}
    (exact : ∀ number, .number number ∈ items → number.IsExact)
    (reads : ∀ item ∈ items, ReadsIndented (readValue depth) item) :
    let start := Value.indentItems items indent true (Value.newLine outer (']' :: tail))
    foldItems (readItem depth) start true [] start = .ok (items.reverse, tail) := by
  intro start
  have clocked := length_le_indent_items items indent true (Value.newLine outer (']' :: tail))
  refine fold_items_laid List.reverse
    (fun items first => Value.indentItems items indent first (Value.newLine outer (']' :: tail)))
    (list_turn_closed (drop_space_new_line outer _)) ?_ [] (List.nil_append items)
    (Nat.le_of_add_right_le clocked) true
  intro before value behind first whole
  have inside : value ∈ items := by
    rw [← whole]
    simp
  have itself (number : Number) (same : value = .number number) : number.IsExact :=
    exact number (same ▸ inside)
  obtain ⟨char, rest, written, visible, opens⟩ := write_indented_begins itself indent
    (Value.indentItems behind indent false (Value.newLine outer (']' :: tail)))
  have spaced : dropSpace (Value.newLine indent (value.writeIndented indent
      (Value.indentItems behind indent false (Value.newLine outer (']' :: tail))))) =
        char :: rest := by
    rw [drop_space_new_line, written, drop_space_visible visible]
  refine ⟨char :: rest, ?_, ?_⟩
  · cases first with
    | true => exact list_turn_first spaced opens
    | false => exact list_turn_next spaced opens
  · rw [← written, readItem, reads value inside _ _ (stops_indent_items indent outer tail behind),
      List.reverse_concat]

theorem fold_members_indented {members : List (String × Value)}
    (reads : ∀ member ∈ members, ReadsIndented (readValue depth) member.2) :
    let start := Value.indentMembers members indent true (Value.newLine outer ('}' :: tail))
    foldMembers (readMember depth) start true [] start = .ok (members.reverse, tail) := by
  intro start
  have clocked := length_le_indent_members members indent true (Value.newLine outer ('}' :: tail))
  refine fold_members_laid List.reverse
    (fun members first =>
      Value.indentMembers members indent first (Value.newLine outer ('}' :: tail)))
    (object_turn_closed (drop_space_new_line outer _)) ?_ [] (List.nil_append members)
    (Nat.le_of_add_right_le clocked) true
  intro before name value behind first whole
  have inside : (name, value) ∈ members := by
    rw [← whole]
    simp
  refine ⟨':' :: ' ' :: value.writeIndented indent
    (Value.indentMembers behind indent false (Value.newLine outer ('}' :: tail))), ?_, ?_⟩
  · cases first with
    | true => exact object_turn_first (drop_space_new_line indent _)
    | false => exact object_turn_next (drop_space_new_line indent _)
  · -- The space behind the colon is dropped by the reader of the value.
    have read := reads _ inside indent _ (stops_indent_members indent outer tail behind)
    rw [← read_value_drop_space] at read
    rw [readMember, read_colon_written]
    dsimp only
    rw [← read_value_drop_space, dropSpace, if_pos (by decide), read, List.reverse_concat]

end Fold

theorem read_value_indented {depth : Nat} {value : Value} (fits : value.Fits depth) :
    ReadsIndented (readValue depth) value := by
  induction fits with
  | null => exact fun _ => read_value_written .null
  | bool value => exact fun _ => read_value_written (.bool value)
  | number exact => exact fun _ => read_value_written (.number exact)
  | string text => exact fun _ => read_value_written (.string text)
  | @array depth items fit induction =>
      intro indent tail _
      have exact (number : Number) (member : .number number ∈ items) : number.IsExact :=
        exact_of_fits (fit _ member) number rfl
      cases items with
      | nil =>
          have folded : foldItems (readItem depth) (']' :: tail) true [] (']' :: tail) =
              .ok ([], tail) := rfl
          exact read_value_of_reading (.array folded)
      | cons item items =>
          have reading :=
            Reading.array (fold_items_indented (indent + 1) indent tail exact induction)
          rw [List.reverse_reverse] at reading
          exact read_value_of_reading reading
  | @object depth members fit induction =>
      intro indent tail _
      cases members with
      | nil =>
          have folded : foldMembers (readMember depth) ('}' :: tail) true [] ('}' :: tail) =
              .ok ([], tail) := rfl
          exact read_value_of_reading (.object folded)
      | cons member members =>
          have reading := Reading.object (fold_members_indented (indent + 1) indent tail induction)
          rw [List.reverse_reverse] at reading
          exact read_value_of_reading reading

theorem parse_indented {value : Value} (fits : value.Fits nestingLimit) :
    parse value.indented = .ok value.canonical := by
  rw [parse, readDocument, Value.indented, String.toList_ofList, read_value_indented fits 0 [] rfl]
  rfl

end ReconChat.Json

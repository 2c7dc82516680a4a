import ReconChat.Json.Printer
import ReconChat.Proofs.Json.Numeral
import ReconChat.Proofs.Json.Quoted

/-!
Written values. The compact form of a value is read back as the value, members in their order, if
its numbers are integers of 64 bits and it does not nest too deeply. The two folds over entries go
through what is written entry by entry, whatever is done with an entry.
-/

namespace ReconChat.Json

/-- What a value begins with ends no list, and only null begins as null does. -/
theorem write_begins {value : Value} (exact : ∀ number, value = .number number → number.IsExact)
    (tail : List Char) :
    ∃ first rest, value.write tail = first :: rest ∧ isSpace first = false ∧ first ≠ ']' ∧
      (first = 'n' → value = .null) := by
  cases value with
  | null => exact ⟨'n', _, rfl, rfl, by decide, fun _ => rfl⟩
  | bool value => cases value <;> exact ⟨_, _, rfl, rfl, by decide, nofun⟩
  | string text => exact ⟨'"', _, rfl, rfl, by decide, nofun⟩
  | array items => exact ⟨'[', _, rfl, rfl, by decide, nofun⟩
  | object members => exact ⟨'{', _, rfl, rfl, by decide, nofun⟩
  | number number =>
      have begins : ∃ first others, number.chars = first :: others ∧
          (isDigit first = true ∨ first = '-') := by
        have exact := exact number rfl
        cases number with
        | real value => cases exact
        | integer value =>
            cases value with
            | ofNat value =>
                obtain ⟨first, others, digits, digit⟩ := to_digits_begins value
                exact ⟨first, others, digits, .inl digit⟩
            | negSucc value => exact ⟨'-', _, rfl, .inr rfl⟩
      obtain ⟨first, others, chars, digit | rfl⟩ := begins
      · refine ⟨first, others ++ tail, by rw [Value.write, chars, List.cons_append],
          not_is_space_of_is_digit digit, ne_of_is_digit digit rfl, fun same => ?_⟩
        exact absurd same (ne_of_is_digit digit rfl)
      · exact ⟨'-', others ++ tail, by rw [Value.write, chars, List.cons_append], rfl, by decide,
          nofun⟩

theorem drop_space_visible {char : Char} (visible : isSpace char = false) (rest : List Char) :
    dropSpace (char :: rest) = char :: rest := by
  rw [dropSpace, if_neg (Bool.eq_false_iff.1 visible)]

section Turns

variable {char : Char} {chars rest : List Char}

theorem list_turn_first (spaced : dropSpace chars = char :: rest) (opens : char ≠ ']') :
    listTurn true chars = .ok (.entry (char :: rest)) := by
  rw [listTurn, spaced]
  split
  · next empty => cases empty
  · next closed => exact absurd (List.cons.inj closed).1 opens
  · next same =>
      cases same
      rfl

theorem list_turn_next (spaced : dropSpace chars = char :: rest) (opens : char ≠ ']') :
    listTurn false (',' :: chars) = .ok (.entry (char :: rest)) := by
  rw [listTurn, drop_space_visible (show isSpace ',' = false from rfl)]
  split
  · next empty => cases empty
  · next closed => exact absurd (List.cons.inj closed).1 (by decide)
  · next same =>
      cases same
      rw [if_neg Bool.false_ne_true, if_pos rfl, spaced]
      split
      · next empty => cases empty
      · next closed => exact absurd (List.cons.inj closed).1 opens
      · rfl

theorem list_turn_closed (spaced : dropSpace chars = ']' :: rest) (first : Bool) :
    listTurn first chars = .ok (.closed rest) := by
  rw [listTurn, spaced]
  rfl

theorem object_turn_first (spaced : dropSpace chars = '"' :: rest) :
    objectTurn true chars = .ok (.entry rest) := by
  rw [objectTurn, spaced]
  rfl

theorem object_turn_next (spaced : dropSpace chars = '"' :: rest) :
    objectTurn false (',' :: chars) = .ok (.entry rest) := by
  rw [objectTurn, drop_space_visible (show isSpace ',' = false from rfl)]
  split
  · next empty => cases empty
  · next closed => exact absurd (List.cons.inj closed).1 (by decide)
  · next same =>
      cases same
      rw [if_neg Bool.false_ne_true, if_pos rfl, spaced]
      rfl

theorem object_turn_closed (spaced : dropSpace chars = '}' :: rest) (first : Bool) :
    objectTurn first chars = .ok (.closed rest) := by
  rw [objectTurn, spaced]
  rfl

end Turns

theorem stops_write_members (members : List (String × Value)) (tail : List Char) :
    StopsNumeral (Value.writeMembers members false ('}' :: tail)) := by
  cases members <;> rfl

theorem stops_write_items (items : List Value) (tail : List Char) :
    StopsNumeral (Value.writeItems items false (']' :: tail)) := by
  cases items <;> rfl

mutual

theorem length_le_write : ∀ (value : Value) (tail : List Char),
    tail.length ≤ (value.write tail).length
  | .null, tail => by simp [Value.write]; omega
  | .bool true, tail => by simp [Value.write]; omega
  | .bool false, tail => by simp [Value.write]; omega
  | .number number, tail => by simp [Value.write]
  | .string text, tail => by simp [Value.write, writeQuoted]; omega
  | .array items, tail => by
      have later := length_le_write_items items true (']' :: tail)
      rw [Bool.toNat_true, List.length_cons] at later
      rw [Value.write, List.length_cons]
      omega
  | .object members, tail => by
      have later := length_le_write_members members true ('}' :: tail)
      rw [List.length_cons] at later
      rw [Value.write, List.length_cons]
      omega

/-- Every item but the first has a comma in front of it. -/
theorem length_le_write_items : ∀ (items : List Value) (first : Bool) (tail : List Char),
    items.length + tail.length ≤ (Value.writeItems items first tail).length + first.toNat
  | [], _, tail => by simp [Value.writeItems]
  | item :: rest, first, tail => by
      have value := length_le_write item (Value.writeItems rest false tail)
      have later := length_le_write_items rest false tail
      rw [Bool.toNat_false] at later
      cases first with
      | true =>
          rw [Value.writeItems, Bool.toNat_true, List.length_cons]
          omega
      | false =>
          rw [Value.writeItems, Bool.toNat_false, List.length_cons, List.length_cons]
          omega

theorem length_le_write_members :
    ∀ (members : List (String × Value)) (first : Bool) (tail : List Char),
      members.length + tail.length ≤ (Value.writeMembers members first tail).length
  | [], _, tail => by simp [Value.writeMembers]
  | (name, value) :: rest, first, tail => by
      have value := length_le_write value (Value.writeMembers rest false tail)
      have later := length_le_write_members rest false tail
      cases first <;>
        simp only [Value.writeMembers, writeQuoted, List.length_cons, List.length_append] <;> omega

end

theorem read_colon_written (rest : List Char) : readColon (':' :: rest) = .ok rest := rfl

section Fold

variable {State : Type}

/-- What is done with every written item leads from the state after the items before it to the
state after these items and itself. -/
def TakesItems (item : State → List Char → Result State) (after : List Value → State)
    (items : List Value) : Prop :=
  ∀ before value behind tail, before ++ value :: behind = items → StopsNumeral tail →
    item (after before) (value.write tail) = .ok (after (before ++ [value]), tail)

def TakesMembers (member : State → String → List Char → Result State)
    (after : List (String × Value) → State) (members : List (String × Value)) : Prop :=
  ∀ before name value behind tail, before ++ (name, value) :: behind = members →
    StopsNumeral tail → member (after before) name (':' :: value.write tail) =
      .ok (after (before ++ [(name, value)]), tail)

/-- A fold goes through items that are laid out one after the other, whatever the layout is: from
the text of the items from one on, a turn leads to this item and what is done with it to the text of
those behind it. -/
theorem fold_items_laid {item : State → List Char → Result State} (after : List Value → State)
    {items : List Value} (laid : List Value → Bool → List Char) {tail : List Char}
    (closes : ∀ first, listTurn first (laid [] first) = .ok (.closed tail))
    (steps : ∀ before value behind first, before ++ value :: behind = items →
      ∃ start, listTurn first (laid (value :: behind) first) = .ok (.entry start) ∧
        item (after before) start = .ok (after (before ++ [value]), laid behind false))
    (before : List Value) {behind : List Value} (whole : before ++ behind = items)
    {clock : List Char} (clocked : behind.length ≤ clock.length) (first : Bool) :
    foldItems item clock first (after before) (laid behind first) = .ok (after items, tail) := by
  induction behind generalizing before clock first with
  | nil =>
      rw [List.append_nil] at whole
      rw [foldItems.eq_def, whole]
      dsimp only
      rw [closes]
  | cons value behind induction =>
      cases clock with
      | nil => cases clocked
      | cons char clock =>
          obtain ⟨start, turn, step⟩ := steps before value behind first whole
          rw [foldItems, turn]
          dsimp only
          rw [step]
          apply induction
          · rw [← whole, List.append_assoc, List.singleton_append]
          · exact Nat.le_of_succ_le_succ clocked

theorem fold_members_laid {member : State → String → List Char → Result State}
    (after : List (String × Value) → State) {members : List (String × Value)}
    (laid : List (String × Value) → Bool → List Char) {tail : List Char}
    (closes : ∀ first, objectTurn first (laid [] first) = .ok (.closed tail))
    (steps : ∀ before name value behind first, before ++ (name, value) :: behind = members →
      ∃ start, objectTurn first (laid ((name, value) :: behind) first) =
          .ok (.entry (name.toList.flatMap escapeChar ++ '"' :: start)) ∧
        member (after before) name start =
          .ok (after (before ++ [(name, value)]), laid behind false))
    (before : List (String × Value)) {behind : List (String × Value)}
    (whole : before ++ behind = members) {clock : List Char}
    (clocked : behind.length ≤ clock.length) (first : Bool) :
    foldMembers member clock first (after before) (laid behind first) =
      .ok (after members, tail) := by
  induction behind generalizing before clock first with
  | nil =>
      rw [List.append_nil] at whole
      rw [foldMembers.eq_def, whole]
      dsimp only
      rw [closes]
  | cons pair behind induction =>
      cases clock with
      | nil => cases clocked
      | cons char clock =>
          obtain ⟨start, turn, step⟩ := steps before pair.1 pair.2 behind first whole
          rw [foldMembers, turn]
          dsimp only
          rw [read_quoted_written]
          dsimp only
          rw [step]
          apply induction
          · rw [← whole, List.append_assoc, List.singleton_append]
          · exact Nat.le_of_succ_le_succ clocked

theorem fold_items_written {item : State → List Char → Result State} {after : List Value → State}
    {items : List Value} (exact : ∀ number, .number number ∈ items → number.IsExact)
    (takes : TakesItems item after items) (tail : List Char) :
    foldItems item (Value.writeItems items true (']' :: tail)) true (after [])
      (Value.writeItems items true (']' :: tail)) = .ok (after items, tail) := by
  have clocked := length_le_write_items items true (']' :: tail)
  rw [List.length_cons, Bool.toNat_true] at clocked
  refine fold_items_laid after (fun items first => Value.writeItems items first (']' :: tail))
    (list_turn_closed rfl) ?_ [] (List.nil_append items) (by omega) true
  intro before value behind first whole
  have itself (number : Number) (same : value = .number number) : number.IsExact :=
    exact number (by rw [← whole, same]; simp)
  obtain ⟨start, rest, written, visible, opens, _⟩ :=
    write_begins itself (Value.writeItems behind false (']' :: tail))
  refine ⟨_, ?_, takes before value behind _ whole (stops_write_items behind tail)⟩
  rw [written]
  cases first with
  | true =>
      rw [Value.writeItems, written]
      exact list_turn_first (drop_space_visible visible rest) opens
  | false =>
      rw [Value.writeItems, written]
      exact list_turn_next (drop_space_visible visible rest) opens

theorem fold_members_written {member : State → String → List Char → Result State}
    {after : List (String × Value) → State} {members : List (String × Value)}
    (takes : TakesMembers member after members) (tail : List Char) :
    foldMembers member (Value.writeMembers members true ('}' :: tail)) true (after [])
      (Value.writeMembers members true ('}' :: tail)) = .ok (after members, tail) := by
  have clocked := length_le_write_members members true ('}' :: tail)
  refine fold_members_laid after
    (fun members first => Value.writeMembers members first ('}' :: tail))
    (object_turn_closed rfl) ?_ [] (List.nil_append members) (by omega) true
  intro before name value behind first whole
  refine ⟨_, ?_, takes before name value behind _ whole (stops_write_members behind tail)⟩
  cases first <;> rfl

end Fold

/-- Values that are read back: their numbers are exact, and they nest no deeper than a depth. -/
inductive Value.Fits : Nat → Value → Prop where
  | null {depth : Nat} : Fits depth .null
  | bool {depth : Nat} (value : Bool) : Fits depth (.bool value)
  | number {depth : Nat} {number : Number} (exact : number.IsExact) : Fits depth (.number number)
  | string {depth : Nat} (text : String) : Fits depth (.string text)
  | array {depth : Nat} {items : List Value} (fit : ∀ item ∈ items, Fits depth item) :
      Fits (depth + 1) (.array items)
  | object {depth : Nat} {members : List (String × Value)}
      (fit : ∀ member ∈ members, Fits depth member.2) : Fits (depth + 1) (.object members)

attribute [simp] Value.Fits.null Value.Fits.bool Value.Fits.string

@[simp] theorem Value.fits_number_iff {depth : Nat} {number : Number} :
    (Value.number number).Fits depth ↔ number.IsExact :=
  ⟨fun | .number exact => exact, .number⟩

@[simp] theorem Value.fits_array_iff {depth : Nat} {items : List Value} :
    (Value.array items).Fits (depth + 1) ↔ ∀ item ∈ items, item.Fits depth :=
  ⟨fun | .array fit => fit, .array⟩

@[simp] theorem Value.fits_object_iff {depth : Nat} {members : List (String × Value)} :
    (Value.object members).Fits (depth + 1) ↔ ∀ member ∈ members, member.2.Fits depth :=
  ⟨fun | .object fit => fit, .object⟩

theorem exact_of_fits {depth : Nat} {value : Value} (fits : value.Fits depth) (number : Number)
    (same : value = .number number) : number.IsExact := by
  subst same
  exact Value.fits_number_iff.1 fits

/-- A reader reads a value back from its compact form, whatever stands behind it but more of a
numeral. -/
def ReadsBack (reader : List Char → Result Value) (value : Value) : Prop :=
  ∀ tail, StopsNumeral tail → reader (value.write tail) = .ok (value, tail)

theorem read_value_written {depth : Nat} {value : Value} (fits : value.Fits depth) :
    ReadsBack (readValue depth) value := by
  induction fits with
  | null => exact fun tail _ => read_value_of_reading (.null rfl)
  | bool value =>
      cases value with
      | true => exact fun tail _ => read_value_of_reading (.true rfl)
      | false => exact fun tail _ => read_value_of_reading (.false rfl)
  | number exact => exact fun tail stops => read_value_of_reading (reading_of_number exact stops _)
  | string text =>
      exact fun tail _ => read_value_of_reading (.string (read_quoted_written text tail))
  | @array depth items fit induction =>
      intro tail _
      have takes : TakesItems (readItem depth) List.reverse items := by
        intro before value behind tail whole stops
        rw [readItem, induction value (by rw [← whole]; simp) tail stops, List.reverse_concat]
      have reading := Reading.array (fold_items_written
        (fun number member => exact_of_fits (fit _ member) number rfl) takes tail)
      rw [List.reverse_reverse] at reading
      exact read_value_of_reading reading
  | @object depth members fit induction =>
      intro tail _
      have takes : TakesMembers (readMember depth) List.reverse members := by
        intro before name value behind tail whole stops
        have read := induction (name, value) (by rw [← whole]; simp) tail stops
        rw [readMember, read_colon_written]
        dsimp only
        rw [read, List.reverse_concat]
      have reading := Reading.object (fold_members_written takes tail)
      rw [List.reverse_reverse] at reading
      exact read_value_of_reading reading

theorem parse_compact {value : Value} (fits : value.Fits nestingLimit) :
    parse value.compact = .ok value.canonical := by
  rw [parse, readDocument, Value.compact, String.toList_ofList, read_value_written fits [] rfl]
  rfl

end ReconChat.Json

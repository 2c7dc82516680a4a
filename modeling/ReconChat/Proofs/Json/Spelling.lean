import ReconChat.Proofs.Json.Folds
import ReconChat.Proofs.Json.Natural
import ReconChat.Proofs.NameTable

/-!
Members as an object spells them, and items as a list does. They are read as the reader of values
reads them, and each value is kept with the text it is read from, so that what is said of a value
can be said of its text: which texts are those of a null and of a natural number, and where the text
of a number ends. Nothing is said here about the white space between members.
-/

namespace ReconChat.Json

/-- A value with the text it is read from, which starts with it, and the rest behind it. -/
structure Spelling where
  value : Value
  chars : List Char
  rest : List Char

def Spelling.text (spelling : Spelling) : List Char :=
  spelling.chars.take (spelling.chars.length - spelling.rest.length)

def spellMember (depth : Nat) (members : List (String × Spelling)) (name : String)
    (afterName : List Char) : Result (List (String × Spelling)) :=
  match readColon afterName with
  | .error fault => .error fault
  | .ok start =>
      match readValue depth start with
      | .error fault => .error fault
      | .ok (value, rest) => .ok ((name, ⟨value, dropSpace start, rest⟩) :: members, rest)

def spelledMembers (depth : Nat) : List Char → Option (List (String × Spelling))
  | '{' :: start =>
      match foldMembers (spellMember depth) start true [] start with
      | .error _ => none
      | .ok (members, _) => some members.reverse
  | _ => none

def spellItem (depth : Nat) (items : List Spelling) (start : List Char) : Result (List Spelling) :=
  match readValue depth start with
  | .error fault => .error fault
  | .ok (value, rest) => .ok (⟨value, dropSpace start, rest⟩ :: items, rest)

def spelledItems (depth : Nat) : List Char → Option (List Spelling)
  | '[' :: start =>
      match foldItems (spellItem depth) start true [] start with
      | .error _ => none
      | .ok (items, _) => some items.reverse
  | _ => none

section Fold

variable {State Other : Type} {member : Other → String → List Char → Result Other}
  {spelled : State → String → List Char → Result State}

/-- A fold that keeps more is the same fold once that is forgotten. -/
theorem fold_members_map {forget : State → Other}
    (same : ∀ state name chars, member (forget state) name chars =
      (spelled state name chars).map fun given => (forget given.1, given.2))
    (clock : List Char) (first : Bool) (state : State) (chars : List Char) :
    foldMembers member clock first (forget state) chars =
      (foldMembers spelled clock first state chars).map fun given => (forget given.1, given.2) := by
  induction clock generalizing first state chars with
  | nil =>
      rw [foldMembers, foldMembers]
      cases objectTurn first chars with
      | error fault => rfl
      | ok turn => cases turn <;> rfl
  | cons _ clock induction =>
      rw [foldMembers, foldMembers]
      cases objectTurn first chars with
      | error fault => rfl
      | ok turn =>
          cases turn with
          | closed rest => rfl
          | entry start =>
              dsimp only
              cases readQuoted start [] with
              | error fault => rfl
              | ok named =>
                  dsimp only
                  rw [same]
                  cases spelled state named.1 named.2 with
                  | error fault => rfl
                  | ok next => exact induction false next.1 next.2

variable {item : Other → List Char → Result Other} {spelledItem : State → List Char → Result State}

theorem fold_items_map {forget : State → Other}
    (same : ∀ state chars, item (forget state) chars =
      (spelledItem state chars).map fun given => (forget given.1, given.2))
    (clock : List Char) (first : Bool) (state : State) (chars : List Char) :
    foldItems item clock first (forget state) chars =
      (foldItems spelledItem clock first state chars).map fun given =>
        (forget given.1, given.2) := by
  induction clock generalizing first state chars with
  | nil =>
      rw [foldItems, foldItems]
      cases listTurn first chars with
      | error fault => rfl
      | ok turn => cases turn <;> rfl
  | cons _ clock induction =>
      rw [foldItems, foldItems]
      cases listTurn first chars with
      | error fault => rfl
      | ok turn =>
          cases turn with
          | closed rest => rfl
          | entry start =>
              dsimp only
              rw [same]
              cases spelledItem state start with
              | error fault => rfl
              | ok next => exact induction false next.1 next.2

end Fold

def plainMembers (members : List (String × Spelling)) : List (String × Value) :=
  members.map fun member => (member.1, member.2.value)

theorem read_member_eq_spell (depth : Nat) (members : List (String × Spelling)) (name : String)
    (chars : List Char) :
    readMember depth (plainMembers members) name chars =
      (spellMember depth members name chars).map fun given => (plainMembers given.1, given.2) := by
  rw [readMember, spellMember]
  cases readColon chars with
  | error fault => rfl
  | ok start =>
      dsimp only
      cases readValue depth start with
      | error fault => rfl
      | ok given => rfl

theorem spelled_members_of_reading {depth : Nat} {chars rest : List Char}
    {members : List (String × Value)} (reading : Reading (depth + 1) chars (.object members) rest) :
    ∃ spelled, spelledMembers depth chars = some spelled ∧ plainMembers spelled = members := by
  cases reading with
  | @object _ start _ _ folded =>
      have same := fold_members_map (read_member_eq_spell depth) start true [] start
      rw [show plainMembers [] = [] from rfl, folded] at same
      obtain ⟨given, spelled, forgotten⟩ := map_eq_ok same.symm
      cases forgotten
      refine ⟨given.1.reverse, ?_, ?_⟩
      · rw [spelledMembers, spelled]
      · rw [plainMembers, List.map_reverse]
        rfl

theorem reading_of_spelled_members {depth : Nat} {chars : List Char}
    {members : List (String × Spelling)} (spelled : spelledMembers depth chars = some members) :
    ∀ member ∈ members, Reading depth member.2.chars member.2.value member.2.rest := by
  rw [spelledMembers.eq_def] at spelled
  split at spelled
  · split at spelled
    · cases spelled
    · next read =>
        cases spelled
        refine fold_members_holds (fun members => ∀ member ∈ members.reverse,
          Reading depth member.2.chars member.2.value member.2.rest) ?_ (by simp) read
        intro members next name chars rest holds entry
        rw [spellMember] at entry
        split at entry
        · cases entry
        · split at entry
          · cases entry
          · next value =>
              cases entry
              simp only [List.reverse_cons, List.mem_append, List.mem_singleton]
              rintro member (earlier | rfl)
              · exact holds member earlier
              · exact reading_of_read_value value
  · cases spelled

theorem read_item_eq_spell (depth : Nat) (items : List Spelling) (chars : List Char) :
    readItem depth (items.map Spelling.value) chars =
      (spellItem depth items chars).map fun given => (given.1.map Spelling.value, given.2) := by
  rw [readItem, spellItem]
  cases readValue depth chars with
  | error fault => rfl
  | ok given => rfl

theorem spelled_items_of_reading {depth : Nat} {chars rest : List Char} {items : List Value}
    (reading : Reading (depth + 1) chars (.array items) rest) :
    ∃ spelled, spelledItems depth chars = some spelled ∧ spelled.map Spelling.value = items := by
  cases reading with
  | @array _ start _ _ folded =>
      have same := fold_items_map (read_item_eq_spell depth) start true [] start
      rw [List.map_nil, folded] at same
      obtain ⟨given, spelled, forgotten⟩ := map_eq_ok same.symm
      cases forgotten
      refine ⟨given.1.reverse, ?_, List.map_reverse⟩
      rw [spelledItems, spelled]

theorem reading_of_spelled_items {depth : Nat} {chars : List Char} {items : List Spelling}
    (spelled : spelledItems depth chars = some items) :
    ∀ item ∈ items, Reading depth item.chars item.value item.rest := by
  rw [spelledItems.eq_def] at spelled
  split at spelled
  · split at spelled
    · cases spelled
    · next read =>
        cases spelled
        refine fold_items_holds (fun items => ∀ item ∈ items.reverse,
          Reading depth item.chars item.value item.rest) ?_ (by simp) read
        intro items next chars rest holds entry
        rw [spellItem] at entry
        split at entry
        · cases entry
        · next value =>
            cases entry
            simp only [List.reverse_cons, List.mem_append, List.mem_singleton]
            rintro item (earlier | rfl)
            · exact holds item earlier
            · exact reading_of_read_value value
  · cases spelled

theorem Spelling.text_of_append {spelling : Spelling} {front : List Char}
    (whole : spelling.chars = front ++ spelling.rest) : spelling.text = front := by
  rw [text, whole, List.length_append, Nat.add_sub_cancel, List.take_left]

theorem number_text_append {depth : Nat} {spelling : Spelling} {number : Number}
    (reading : Reading depth spelling.chars (.number number) spelling.rest) :
    spelling.text ++ spelling.rest = spelling.chars := by
  have suffix : ∃ front, spelling.chars = front ++ spelling.rest := by
    generalize spelling.chars = chars at reading ⊢
    cases reading with
    | negative read =>
        obtain ⟨front, whole, _⟩ := read_number_leaves read
        exact ⟨'-' :: front, by rw [whole, List.cons_append]⟩
    | natural _ read =>
        obtain ⟨front, whole, _⟩ := read_number_leaves read
        exact ⟨front, whole⟩
  obtain ⟨front, whole⟩ := suffix
  rw [Spelling.text_of_append whole, whole]

namespace Spelling

variable {depth : Nat} {spelling : Spelling}

theorem head_of_text {first : Char} {more : List Char} (text : spelling.text = first :: more) :
    ∃ start, spelling.chars = first :: start := by
  obtain ⟨start, whole⟩ : spelling.text <+: spelling.chars := List.take_prefix _ _
  rw [text] at whole
  exact ⟨more ++ start, whole.symm⟩

theorem null_iff (reading : Reading depth spelling.chars spelling.value spelling.rest) :
    spelling.value = .null ↔ spelling.text = ['n', 'u', 'l', 'l'] := by
  constructor
  · intro null
    have whole : spelling.chars = ['n', 'u', 'l', 'l'] ++ spelling.rest := by
      generalize spelling.chars = chars at reading ⊢
      rw [null] at reading
      cases reading with
      | null word => exact congrArg ('n' :: ·) (read_word_rest word)
    exact text_of_append whole
  · intro text
    obtain ⟨start, whole⟩ := head_of_text text
    rw [whole] at reading
    generalize spelling.value = value at reading ⊢
    cases reading with
    | null _ => rfl
    | natural digit _ => exact absurd digit (by decide)

theorem natural_iff {number : Nat}
    (reading : Reading depth spelling.chars spelling.value spelling.rest) :
    spelling.value = .number (.integer (.ofNat number)) ↔
      spelling.text = Nat.toDigits 10 number ∧ number < significandBound := by
  constructor
  · intro natural
    rw [natural] at reading
    obtain ⟨whole, fits⟩ := chars_of_natural reading
    exact ⟨text_of_append whole, fits⟩
  · rintro ⟨text, fits⟩
    obtain ⟨first, others, digits, digit⟩ := to_digits_begins number
    obtain ⟨start, whole⟩ := head_of_text (text.trans digits)
    obtain ⟨other, isNumber, _⟩ := number_of_digit digit (whole ▸ reading)
    have parts := number_text_append (isNumber ▸ reading)
    rw [text] at parts
    rw [← parts] at reading
    exact natural_of_chars fits reading

end Spelling

end ReconChat.Json

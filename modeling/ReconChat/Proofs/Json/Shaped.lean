import ReconChat.Proofs.Json.Passing
import ReconChat.Proofs.Json.Record

/-!
Documents of a shape. Where a text is read as a document, a shape reader gives what the shape makes
of it, and both leave the same behind: a record has what is said once under the names of its
fields, in an object or in a list, and what an object states under other names is passed over. Which
documents a shape refuses is not said here.
-/

namespace ReconChat.Json.Shape

/-- What a shape makes of a document, wherever the document is read. -/
def Takes (shape : Reader) (document given : Value) : Prop :=
  ∀ (depth : Nat) (chars rest : List Char),
    readValue depth chars = .ok (document, rest) → shape chars = .ok (given, rest)

theorem takes_text (said : String) : Takes text (.string said) (.string said) := by
  intro depth chars rest read
  have reading := reading_of_read_value read
  unfold text
  generalize dropSpace chars = spaced at reading ⊢
  cases reading with
  | @string _ start _ _ quoted =>
      change (readQuoted start []).map _ = _
      rw [quoted]
      rfl

theorem takes_null (shape : Reader) : Takes (optional shape) .null .null := by
  intro depth chars rest read
  have reading := reading_of_read_value read
  unfold optional
  generalize dropSpace chars = spaced at reading ⊢
  cases reading with
  | @null _ start _ word =>
      change (readWord ['u', 'l', 'l'] start).map _ = _
      rw [word]
      rfl

theorem takes_optional {shape : Reader} {document given : Value}
    (taken : Takes shape document given) (some : document ≠ .null) :
    Takes (optional shape) document given := by
  intro depth chars rest read
  rw [← read_value_drop_space] at read
  unfold optional
  split
  · next null =>
      rw [null] at read
      cases reading_of_read_value read with
      | null => exact absurd rfl some
      | natural digit => cases digit
  · exact taken depth _ rest read

section Lists

variable {depth : Nat} {clock : List Char} {first : Bool} {done final : List Value}
  {chars rest : List Char}

def listItem (shape : Reader) (items : List Value) (start : List Char) : Result (List Value) :=
  match shape start with
  | .error fault => .error fault
  | .ok (item, after) => .ok (item :: items, after)

theorem fold_items_takes (shape : Reader)
    (read : foldItems (readItem depth) clock first done chars = .ok (final, rest)) :
    ∃ coming, final.reverse = done.reverse ++ coming ∧
      ∀ givens, List.Forall₂ (Takes shape) coming givens → ∀ kept,
        foldItems (listItem shape) clock first kept chars = .ok (givens.reverse ++ kept, rest) := by
  refine fold_items_induction
    (fun clock first done chars => ∃ coming, final.reverse = done.reverse ++ coming ∧
      ∀ givens, List.Forall₂ (Takes shape) coming givens → ∀ kept,
        foldItems (listItem shape) clock first kept chars = .ok (givens.reverse ++ kept, rest))
    ?_ ?_ read
  · intro clock first chars turn
    refine ⟨[], (List.append_nil _).symm, ?_⟩
    rintro _ ⟨⟩ kept
    exact fold_items_closed turn
  · rintro tick clock first done next chars start after turn entry ⟨coming, whole, takes⟩
    obtain ⟨item, value, rfl⟩ := value_of_read_item entry
    refine ⟨item :: coming, by simp [whole], ?_⟩
    intro givens taken kept
    cases taken with
    | @cons _ given _ givens head tail =>
        have entry : listItem shape kept start = .ok (given :: kept, after) := by
          rw [listItem, head _ _ _ value]
        rw [fold_items_entry turn entry, takes givens tail, List.reverse_cons,
          List.append_assoc, List.singleton_append]

theorem takes_list {shape : Reader} {items givens : List Value}
    (taken : List.Forall₂ (Takes shape) items givens) :
    Takes (list shape) (.array items) (.array givens) := by
  intro depth chars rest read
  have reading := reading_of_read_value read
  unfold list
  generalize dropSpace chars = spaced at reading ⊢
  cases reading with
  | @array depth start _ final folded =>
      obtain ⟨coming, whole, takes⟩ := fold_items_takes shape folded
      rw [List.reverse_nil, List.nil_append] at whole
      change (foldItems (listItem shape) start true [] start).map _ = _
      rw [takes givens (whole ▸ taken), List.append_nil]
      exact congrArg (fun items => Except.ok (Value.array items, rest)) (List.reverse_reverse _)

end Lists

/-- What stands under the names of the fields of a record: at most once each, something that the
field's shape takes, and nothing only where it may be missing. -/
structure Filled (fields : List Field) (members : List (String × Value)) (told : String → Value) :
    Prop where
  once : ∀ field ∈ fields, (members.filter (·.1 = field.name)).length ≤ 1
  taken : ∀ field ∈ fields, ∀ value, (field.name, value) ∈ members →
    Takes field.shape value (told field.name)
  complete : ∀ field ∈ fields, field.mayMiss = true ∨ ∃ value, (field.name, value) ∈ members

def kept (fields : List Field) (told : String → Value) (members : List (String × Value)) :
    List (String × Value) :=
  (members.filter fun member => (fields.find? (·.name = member.1)).isSome).map fun member =>
    (member.1, told member.1)

section Objects

variable {fields : List Field} {members done coming : List (String × Value)}
  {told : String → Value} {name : String} {value : Value}

theorem kept_known {field : Field} (known : fields.find? (·.name = name) = some field)
    (value : Value) (members : List (String × Value)) :
    kept fields told ((name, value) :: members) =
      (name, told name) :: kept fields told members := by
  rw [kept, List.filter_cons_of_pos (by simp [known])]
  rfl

theorem kept_unknown (unknown : fields.find? (·.name = name) = none) (value : Value)
    (members : List (String × Value)) :
    kept fields told ((name, value) :: members) = kept fields told members := by
  rw [kept, List.filter_cons_of_neg (by simp [unknown])]
  rfl

theorem not_kept_before {field : Field} (filled : Filled fields members told)
    (known : field ∈ fields)
    (whole : members = done.reverse ++ (field.name, value) :: coming) :
    (kept fields told done).any (·.1 = field.name) = false := by
  rw [List.any_eq_false]
  intro entry among same
  obtain ⟨earlier, inside, rfl⟩ := List.mem_map.1 among
  have before : 0 < (done.reverse.filter (·.1 = field.name)).length := by
    apply List.length_pos_of_mem
    exact List.mem_filter.2 ⟨List.mem_reverse.2 (List.mem_filter.1 inside).1, same⟩
  have once := filled.once field known
  rw [whole, List.filter_append, List.length_append, List.filter_cons,
    if_pos (decide_eq_true rfl), List.length_cons] at once
  omega

theorem member_takes {depth : Nat} {afterName start after : List Char}
    (filled : Filled fields members told)
    (whole : members = done.reverse ++ (name, value) :: coming)
    (colon : readColon afterName = .ok start)
    (read : readValue depth start = .ok (value, after)) :
    member fields (kept fields told done) name afterName =
      .ok (kept fields told ((name, value) :: done), after) := by
  unfold member
  cases known : fields.find? (·.name = name) with
  | none =>
      dsimp only
      rw [colon]
      dsimp only
      rw [skip_value_of_read_value read, kept_unknown known]
      rfl
  | some field =>
      have among := List.mem_of_find?_eq_some known
      have named : field.name = name := by simpa using List.find?_some known
      subst named
      dsimp only
      have taken := filled.taken field among value (by simp [whole])
      rw [not_kept_before filled among whole, if_neg Bool.false_ne_true, colon]
      dsimp only
      rw [taken _ _ _ read, kept_known known]

theorem fold_members_takes {depth : Nat} {clock chars rest : List Char} {first : Bool}
    {final : List (String × Value)} (filled : Filled fields final.reverse told)
    (read : foldMembers (readMember depth) clock first done chars = .ok (final, rest)) :
    (∃ coming, final.reverse = done.reverse ++ coming) ∧
      foldMembers (member fields) clock first (kept fields told done) chars =
        .ok (kept fields told final, rest) := by
  refine fold_members_induction
    (fun clock first done chars => (∃ coming, final.reverse = done.reverse ++ coming) ∧
      foldMembers (member fields) clock first (kept fields told done) chars =
        .ok (kept fields told final, rest))
    ?_ ?_ read
  · intro clock first chars turn
    exact ⟨⟨[], (List.append_nil _).symm⟩, fold_members_closed turn⟩
  · rintro tick clock first done next name chars start afterName after turn named entry
      ⟨⟨coming, whole⟩, later⟩
    obtain ⟨_, value, colon, taken, rfl⟩ := value_of_read_member entry
    rw [List.reverse_cons, List.append_assoc, List.singleton_append] at whole
    refine ⟨⟨(name, value) :: coming, whole⟩, ?_⟩
    rw [fold_members_entry turn named (member_takes filled whole colon taken), later]

theorem find_is_some {field : Field} (known : field ∈ fields) :
    (fields.find? (·.name = field.name)).isSome = true := by
  rw [List.find?_isSome]
  exact ⟨field, known, decide_eq_true rfl⟩

theorem mem_kept {field : Field} (known : field ∈ fields) (inside : (field.name, value) ∈ members) :
    (field.name, told field.name) ∈ kept fields told members := by
  unfold kept
  rw [List.mem_map]
  exact ⟨(field.name, value), List.mem_filter.2 ⟨inside, find_is_some known⟩, rfl⟩

theorem takes_object (filled : Filled fields members told) :
    Takes (record fields) (.object members) (.object (kept fields told members)) := by
  intro depth chars rest read
  have reading := reading_of_read_value read
  have spaced : record fields (dropSpace chars) = record fields chars := by
    rw [record, record, drop_space_drop_space]
  rw [← spaced]
  generalize dropSpace chars = spaced at reading ⊢
  cases reading with
  | @object depth start _ final folded =>
      obtain ⟨_, takes⟩ := fold_members_takes filled folded
      have complete : ∀ field ∈ fields, field.mayMiss = true ∨
          ∃ value, (field.name, value) ∈ kept fields told final := by
        intro field known
        apply (filled.complete field known).imp_right
        rintro ⟨value, inside⟩
        exact ⟨told field.name, mem_kept known (List.mem_reverse.1 inside)⟩
      rw [record_of_fold takes complete]
      unfold kept
      rw [← List.map_reverse, List.filter_reverse]

theorem latest_map_name (name : String) (members : List (String × Value)) :
    latest? name (members.map fun member => (member.1, told member.1)) =
      (latest? name members).map fun _ => told name := by
  induction members with
  | nil => rfl
  | cons member members induction =>
      rw [List.map_cons, latest_cons, latest_cons, induction]
      by_cases same : name = member.1
      · cases latest? name members <;> simp [same]
      · cases latest? name members <;> simp [same]

theorem latest_kept {field : Field} (known : field ∈ fields) :
    latest? field.name (kept fields told members) =
      (latest? field.name members).map fun _ => told field.name := by
  rw [kept, latest_map_name, latest_filter _ fun _ => find_is_some known]

end Objects

/-- What a record has of a list of values: those of its fields in order, and nothing of the last
fields if they may be missing there. -/
inductive InOrder : List Field → List Value → List (String × Value) → Prop where
  | ended {fields : List Field} (miss : ∀ field ∈ fields, field.mayMissInList = true) :
      InOrder fields [] []
  | field {field : Field} {fields : List Field} {value given : Value} {values : List Value}
      {entries : List (String × Value)} (taken : Takes field.shape value given)
      (later : InOrder fields values entries) :
      InOrder (field :: fields) (value :: values) ((field.name, given) :: entries)

theorem close_fields_of_closed {chars rest : List Char} (closed : dropSpace chars = ']' :: rest) :
    closeFields chars = .ok rest := by
  unfold closeFields
  rw [closed]
  rfl

theorem fields_in_order_takes {depth : Nat} {clock chars rest : List Char} {first : Bool}
    {done final : List Value}
    (read : foldItems (readItem depth) clock first done chars = .ok (final, rest)) :
    ∃ coming, final.reverse = done.reverse ++ coming ∧
      ∀ fields entries, InOrder fields coming entries → ∀ kept,
        fieldsInOrder fields first kept chars = .ok (.object (kept.reverse ++ entries), rest) := by
  refine fold_items_induction
    (fun _ first done chars => ∃ coming, final.reverse = done.reverse ++ coming ∧
      ∀ fields entries, InOrder fields coming entries → ∀ kept,
        fieldsInOrder fields first kept chars = .ok (.object (kept.reverse ++ entries), rest))
    ?_ ?_ read
  · intro _ first chars turn
    refine ⟨[], (List.append_nil _).symm, ?_⟩
    intro fields entries listed kept
    cases listed with
    | ended miss =>
        rw [List.append_nil]
        cases fields with
        | nil =>
            rw [fieldsInOrder, close_fields_of_closed (closed_of_list_turn turn)]
            rfl
        | cons field fields =>
            rw [fieldsInOrder, turn]
            exact if_pos (List.all_eq_true.2 miss)
  · rintro _ _ first done next chars start after turn entry ⟨coming, whole, takes⟩
    obtain ⟨item, value, rfl⟩ := value_of_read_item entry
    refine ⟨item :: coming, by simp [whole], ?_⟩
    intro fields entries listed kept
    cases listed with
    | @field field fields _ given _ entries taken later =>
        rw [fieldsInOrder, turn]
        dsimp only
        rw [taken _ _ _ value]
        dsimp only
        rw [takes fields entries later, List.reverse_cons, List.append_assoc,
          List.singleton_append]

theorem takes_in_order {fields : List Field} {values : List Value}
    {entries : List (String × Value)} (listed : InOrder fields values entries) :
    Takes (record fields) (.array values) (.object entries) := by
  intro depth chars rest read
  have reading := reading_of_read_value read
  unfold record
  generalize dropSpace chars = spaced at reading ⊢
  cases reading with
  | @array depth start _ final folded =>
      obtain ⟨coming, whole, takes⟩ := fields_in_order_takes folded
      rw [List.reverse_nil, List.nil_append] at whole
      exact takes fields entries (whole ▸ listed) []

/-- A whole text that is read as a document, however deep, is decoded as what it means. -/
theorem decode_document {Given : Type} {shape : Reader} {meaning : Value → Option Given}
    {depth : Nat} {chars : List Char} {document given : Value} {meant : Given}
    (read : complete (readValue depth chars) = .ok document) (taken : Takes shape document given)
    (means : meaning given = some meant) : decodeChars shape meaning chars = .ok meant := by
  obtain ⟨rest, value, ends⟩ := complete_eq_ok.1 read
  have whole : whole shape chars = .ok given :=
    complete_eq_ok.2 ⟨rest, taken depth chars rest value, ends⟩
  rw [decodeChars, whole]
  dsimp only
  rw [means]

end ReconChat.Json.Shape

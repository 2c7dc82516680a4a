import ReconChat.Proofs.Json.Shaped

/-!
Documents by what they state. A record is told by what a document states under the names of its
fields: one thing, null, or nothing. The rest of an object is of no account. Something stated
twice under one name is left out here, since no record has it.
-/

namespace ReconChat.Json.Shape

/-- What a document states under the name of a field: nothing, or one thing. A list of one states it
under any name. -/
inductive States (name : String) : Value → Option Value → Prop where
  | nothing {members : List (String × Value)} (absent : ∀ member ∈ members, member.1 ≠ name) :
      States name (.object members) none
  | once {members : List (String × Value)} {value : Value}
      (only : members.filter (·.1 = name) = [(name, value)]) :
      States name (.object members) (some value)
  | alone (value : Value) : States name (.array [value]) (some value)

inductive Field.Has (field : Field) : Option Value → Option Value → Prop where
  | missing (mayMiss : field.mayMiss = true) : Has field none none
  | value {value given : Value} (taken : Takes field.shape value given) :
      Has field (some value) (some given)

namespace Field.Has

variable {field : Field} {said told : Option Value} {value : Value}

theorem taken (has : field.Has said told) (same : said = some value) :
    Takes field.shape value (told.getD .null) := by
  cases has with
  | missing => cases same
  | value taken =>
      cases same
      exact taken

theorem complete (has : field.Has said told) :
    field.mayMiss = true ∨ ∃ value, said = some value := by
  cases has with
  | missing mayMiss => exact .inl mayMiss
  | value => exact .inr ⟨_, rfl⟩

theorem told_eq (has : field.Has said told) : (said.map fun _ => told.getD .null) = told := by
  cases has <;> rfl

end Field.Has

theorem filter_of_states {name : String} {members : List (String × Value)} {said : Option Value}
    (states : States name (.object members) said) :
    members.filter (·.1 = name) = said.toList.map (name, ·) := by
  cases states with
  | nothing absent =>
      rw [Option.toList_none, List.map_nil, List.filter_eq_nil_iff]
      simpa using absent
  | once only => exact only

theorem mem_of_states {name : String} {members : List (String × Value)} {said : Option Value}
    (states : States name (.object members) said) {value : Value} :
    (name, value) ∈ members ↔ said = some value := by
  have inside : (name, value) ∈ members ↔ (name, value) ∈ members.filter (·.1 = name) := by simp
  rw [inside, filter_of_states states]
  cases said <;> simp [eq_comm]

namespace States

variable {name other : String} {value : Value} {members : List (String × Value)}

theorem here (absent : ∀ member ∈ members, member.1 ≠ name) :
    States name (.object ((name, value) :: members)) (some value) := by
  apply once
  rw [List.filter_cons_of_pos (by simp), List.filter_eq_nil_iff.2 (by simpa using absent)]

theorem behind {said : Option Value} (different : other ≠ name)
    (states : States name (.object members) said) :
    States name (.object ((other, value) :: members)) said := by
  cases states with
  | nothing absent => exact .nothing (List.forall_mem_cons.2 ⟨different, absent⟩)
  | once only =>
      apply once
      rwa [List.filter_cons_of_neg (by simpa using different)]

end States

section Records

variable {fields : List Field} {members : List (String × Value)}
  {said told : String → Option Value}

theorem filled_of_states
    (states : ∀ field ∈ fields, States field.name (.object members) (said field.name))
    (has : ∀ field ∈ fields, field.Has (said field.name) (told field.name)) :
    Filled fields members fun name => (told name).getD .null := by
  constructor
  · intro field known
    rw [filter_of_states (states field known), List.length_map]
    exact Option.length_toList_le
  · intro field known value inside
    exact (has field known).taken ((mem_of_states (states field known)).1 inside)
  · intro field known
    apply (has field known).complete.imp_right
    rintro ⟨value, same⟩
    exact ⟨value, (mem_of_states (states field known)).2 same⟩

/-- An object that says one thing or nothing under each name is a record of it. -/
theorem takes_stated
    (states : ∀ field ∈ fields, States field.name (.object members) (said field.name))
    (has : ∀ field ∈ fields, field.Has (said field.name) (told field.name)) :
    ∃ given, Takes (record fields) (.object members) given ∧
      ∀ field ∈ fields, given.member? field.name = told field.name := by
  refine ⟨_, takes_object (filled_of_states states has), ?_⟩
  intro field known
  have stated : latest? field.name members = said field.name := by
    have filter := filter_of_states (states field known)
    rw [← latest_filter (fun member => member.1 = field.name) fun _ => decide_eq_true rfl, filter]
    cases said field.name with
    | none => rfl
    | some value => exact if_pos rfl
  rw [Value.member?, latest_kept known, stated]
  exact (has field known).told_eq

end Records

theorem takes_one {field : Field} {document : Value} {said told : Option Value}
    (states : States field.name document said) (has : field.Has said told) :
    ∃ given, Takes (record [field]) document given ∧ given.member? field.name = told := by
  have object {members : List (String × Value)}
      (states : States field.name (.object members) said) :
      ∃ given, Takes (record [field]) (.object members) given ∧
        given.member? field.name = told := by
    obtain ⟨given, takes, told⟩ := @takes_stated [field] members (fun _ => said) (fun _ => told)
      (by simpa using states) (by simpa using has)
    exact ⟨given, takes, told field (List.mem_singleton.2 rfl)⟩
  cases states with
  | nothing absent => exact object (.nothing absent)
  | once only => exact object (.once only)
  | alone value =>
      cases has with
      | @value _ given taken =>
          have nothing : InOrder [] [] [] := .ended nofun
          exact ⟨_, takes_in_order (.field taken nothing), if_pos rfl⟩

inductive Perhaps {Meant : Type} (Is : Value → Meant → Prop) :
    Option Value → Option Meant → Prop where
  | missing : Perhaps Is none none
  | null : Perhaps Is (some .null) none
  | given {value : Value} {meant : Meant} (is : Is value meant) :
      Perhaps Is (some value) (some meant)

/-- A list that may be missing. -/
inductive Listed {Meant : Type} (Is : Value → Meant → Prop) : Option Value → List Meant → Prop where
  | missing : Listed Is none []
  | items {values : List Value} {meants : List Meant} (are : List.Forall₂ Is values meants) :
      Listed Is (some (.array values)) meants

def TakesAs {Meant : Type} (shape : Reader) (Is Means : Value → Meant → Prop) : Prop :=
  ∀ value meant, Is value meant → ∃ given, Takes shape value given ∧ Means given meant

section Fields

variable {Meant : Type} {shape : Reader} {Is Means : Value → Meant → Prop} {said : Option Value}

theorem has_perhaps (takes : TakesAs shape Is Means) (notNull : ∀ meant, ¬Is .null meant)
    (name : String) {meant : Option Meant} (perhaps : Perhaps Is said meant) :
    ∃ told, (nullable name shape).Has said told ∧ Perhaps Means told meant := by
  cases perhaps with
  | missing => exact ⟨none, .missing rfl, .missing⟩
  | null => exact ⟨some .null, .value (takes_null shape), .null⟩
  | @given value meant is =>
      obtain ⟨given, taken, means⟩ := takes _ _ is
      have some : value ≠ .null := fun null => notNull meant (null ▸ is)
      exact ⟨_, .value (takes_optional taken some), .given means⟩

theorem takes_all (takes : TakesAs shape Is Means) {values : List Value} {meants : List Meant}
    (are : List.Forall₂ Is values meants) :
    ∃ givens, List.Forall₂ (Takes shape) values givens ∧ List.Forall₂ Means givens meants := by
  induction are with
  | nil => exact ⟨[], .nil, .nil⟩
  | cons is _ induction =>
      obtain ⟨given, taken, means⟩ := takes _ _ is
      obtain ⟨givens, others, mean⟩ := induction
      exact ⟨given :: givens, .cons taken others, .cons means mean⟩

theorem has_listed (takes : TakesAs shape Is Means) (name : String) {meants : List Meant}
    (listed : Listed Is said meants) :
    ∃ told, (defaulted name (list shape)).Has said told ∧ Listed Means told meants := by
  cases listed with
  | missing => exact ⟨none, .missing rfl, .missing⟩
  | items are =>
      obtain ⟨givens, taken, mean⟩ := takes_all takes are
      exact ⟨_, .value (takes_list taken), .items mean⟩

end Fields

end ReconChat.Json.Shape

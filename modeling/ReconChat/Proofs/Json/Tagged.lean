import ReconChat.Proofs.Json.Folds
import ReconChat.Proofs.Json.Record

/-!
Records told apart by a tag. An object that is read as one is the same object as a document: its
tag is its only member of the tag's name, and the rest are its other members. An object written
with its tag first is read as one. Records written as lists have no document to compare with.
-/

namespace ReconChat.Json

def readTag (tags : List String) (start : List Char) : Result String :=
  match Shape.text start with
  | .error fault => .error fault
  | .ok (.string tag, after) =>
      if tag ∈ tags then .ok (tag, after) else failAt .wrongShape after
  | .ok (_, after) => failAt .wrongShape after

def taggedMember (tagName : String) (tags : List String)
    (state : Option String × List (String × Value)) (name : String) (afterName : List Char) :
    Result (Option String × List (String × Value)) :=
  if name = tagName ∧ state.1.isSome then failAt .wrongShape afterName
  else
    match readColon afterName with
    | .error fault => .error fault
    | .ok start =>
        if name = tagName then
          (readTag tags start).map fun (tag, after) => ((some tag, state.2), after)
        else
          (readValue (nestingLimit - 1) start).map fun (value, after) =>
            ((state.1, (name, value) :: state.2), after)

theorem read_tagged_object (tagName : String) (tags : List String) (start : List Char) :
    readTagged tagName tags ('{' :: start) =
      match foldMembers (taggedMember tagName tags) start true (none, []) start with
      | .error fault => .error fault
      | .ok ((some tag, members), after) => .ok (⟨tag, .object members.reverse⟩, after)
      | .ok ((none, _), after) => failAt .wrongShape after := rfl

theorem read_tagged_drop_space (tagName : String) (tags : List String) (chars : List Char) :
    readTagged tagName tags (dropSpace chars) = readTagged tagName tags chars := by
  rw [readTagged, readTagged, drop_space_drop_space]

/-- The members of a document beside what the reader of tagged records keeps of them: the tag, if
there is a member of its name, and the other members. Both lists are in reverse. -/
def TagOf (tagName : String) (tags : List String) (members : List (String × Value))
    (state : Option String × List (String × Value)) : Prop :=
  members.filter (·.1 = tagName) = state.1.toList.map (fun tag => (tagName, .string tag)) ∧
    members.filter (·.1 ≠ tagName) = state.2 ∧ ∀ tag, state.1 = some tag → tag ∈ tags

section TagOf

variable {tagName name tag : String} {tags : List String} {members : List (String × Value)}
  {state next : Option String × List (String × Value)}

theorem TagOf.cons_tag (follows : TagOf tagName tags members state) (fresh : state.1 = none)
    (known : tag ∈ tags) :
    TagOf tagName tags ((tagName, .string tag) :: members) (some tag, state.2) := by
  obtain ⟨tagged, others, _⟩ := follows
  rw [fresh] at tagged
  refine ⟨?_, ?_, ?_⟩
  · rw [List.filter_cons, if_pos (decide_eq_true rfl), tagged]
    rfl
  · rw [List.filter_cons, if_neg (by simp), others]
  · intro other same
    cases same
    exact known

theorem TagOf.cons_other (follows : TagOf tagName tags members state) (different : name ≠ tagName)
    (value : Value) :
    TagOf tagName tags ((name, value) :: members) (state.1, (name, value) :: state.2) := by
  obtain ⟨tagged, others, known⟩ := follows
  refine ⟨?_, ?_, known⟩
  · rwa [List.filter_cons, if_neg (by simpa using different)]
  · rw [List.filter_cons, if_pos (decide_eq_true different), others]

theorem read_value_of_read_tag {start after : List Char}
    (read : readTag tags start = .ok (tag, after)) (depth : Nat) :
    tag ∈ tags ∧ readValue depth start = .ok (.string tag, after) := by
  rw [readTag] at read
  split at read
  · cases read
  · next text =>
      split at read
      · next known =>
          cases read
          refine ⟨known, ?_⟩
          rw [Shape.text] at text
          split at text
          · next opens =>
              obtain ⟨given, quoted, same⟩ := map_eq_ok text
              cases same
              rw [← read_value_drop_space, opens]
              exact read_value_of_reading (.string quoted)
          · cases text
      · cases read
  · cases read

theorem tagged_member_follows {chars rest : List Char}
    (follows : TagOf tagName tags members state)
    (entry : taggedMember tagName tags state name chars = .ok (next, rest)) :
    ∃ after, readMember (nestingLimit - 1) members name chars = .ok (after, rest) ∧
      TagOf tagName tags after next := by
  rw [taggedMember] at entry
  rw [readMember]
  split at entry
  · cases entry
  · next fresh =>
      cases colon : readColon chars with
      | error fault =>
          rw [colon] at entry
          cases entry
      | ok start =>
          rw [colon] at entry
          dsimp only at entry ⊢
          split at entry
          · next same =>
              subst same
              obtain ⟨⟨tag, after⟩, read, forgotten⟩ := map_eq_ok entry
              cases forgotten
              obtain ⟨known, value⟩ := read_value_of_read_tag read (nestingLimit - 1)
              have untagged : state.1 = none := by simpa using fresh
              rw [value]
              exact ⟨_, rfl, follows.cons_tag untagged known⟩
          · next different =>
              obtain ⟨⟨value, after⟩, read, forgotten⟩ := map_eq_ok entry
              cases forgotten
              rw [read]
              exact ⟨_, rfl, follows.cons_other different value⟩

end TagOf

/-- A tagged record that is read from an object is that object with its tag taken out. -/
theorem document_of_tagged {tagName : String} {tags : List String} {chars start rest : List Char}
    {tagged : Tagged} (opens : dropSpace chars = '{' :: start)
    (read : readTagged tagName tags chars = .ok (tagged, rest)) :
    ∃ members, readValue nestingLimit chars = .ok (.object members, rest) ∧ tagged.tag ∈ tags ∧
      members.filter (·.1 = tagName) = [(tagName, .string tagged.tag)] ∧
      tagged.body = .object (members.filter (·.1 ≠ tagName)) := by
  rw [← read_tagged_drop_space, opens, read_tagged_object] at read
  split at read
  · cases read
  · next folded =>
      cases read
      have nothing : TagOf tagName tags [] (none, []) := ⟨rfl, rfl, nofun⟩
      obtain ⟨members, document, follows, others, known⟩ :=
        fold_members_follow tagged_member_follows nothing folded
      refine ⟨members.reverse, ?_, known _ rfl, ?_, ?_⟩
      · rw [← read_value_drop_space, opens]
        exact read_value_of_reading (.object document)
      · rw [List.filter_reverse, follows]
        rfl
      · rw [List.filter_reverse, others]
  · cases read

def tagFirst (tag : String) : List (String × Value) → Option String × List (String × Value)
  | [] => (none, [])
  | _ :: others => (some tag, others.reverse)

theorem read_tagged_written {tagName tag : String} {tags : List String}
    {members : List (String × Value)} (known : tag ∈ tags)
    (others : ∀ member ∈ members, member.1 ≠ tagName)
    (fit : ∀ member ∈ members, member.2.Fits (nestingLimit - 1)) (tail : List Char) :
    readTagged tagName tags ((Value.object ((tagName, .string tag) :: members)).write tail) =
      .ok (⟨tag, .object members⟩, tail) := by
  have takes : TakesMembers (taggedMember tagName tags) (tagFirst tag)
      ((tagName, .string tag) :: members) := by
    intro before name value behind tail whole stops
    cases before with
    | nil =>
        cases whole
        rw [taggedMember, if_neg (by simp [tagFirst]), read_colon_written]
        dsimp only
        rw [if_pos rfl, readTag, Shape.reads_text tag tail stops]
        dsimp only
        rw [if_pos known]
        rfl
    | cons first earlier =>
        have inside : (name, value) ∈ members := by
          rw [← (List.cons.inj whole).2]
          simp
        have different := others _ inside
        rw [taggedMember, if_neg (fun same => different same.1), read_colon_written]
        dsimp only
        rw [if_neg different, read_value_written (fit _ inside) tail stops]
        simp [tagFirst, Except.map]
  have start : (none, []) = tagFirst tag [] := rfl
  rw [Value.write, read_tagged_object, start, fold_members_written takes tail]
  dsimp only [tagFirst]
  rw [List.reverse_reverse]

end ReconChat.Json

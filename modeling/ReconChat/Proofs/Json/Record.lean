import ReconChat.Json.Shape
import ReconChat.Proofs.Json.Written
import ReconChat.Proofs.NameTable

/-!
Written records. A shape reads back what is written of a value if its parts do: a record is written
as the fields it has values for, in the order of the fields, and is read back if every other field
may be missing. Records written as lists are not written here.
-/

namespace ReconChat.Json

def present (entries : List (String × Option Value)) : List (String × Value) :=
  entries.filterMap fun entry => entry.2.map fun value => (entry.1, value)

theorem mem_present {name : String} {value : Value} {entries : List (String × Option Value)} :
    (name, value) ∈ present entries ↔ (name, some value) ∈ entries := by
  rw [present, List.mem_filterMap]
  constructor
  · rintro ⟨⟨other, kept⟩, member, same⟩
    cases kept with
    | none => cases same
    | some kept =>
        cases same
        exact member
  · exact fun member => ⟨(name, some value), member, rfl⟩

theorem present_names_sublist (entries : List (String × Option Value)) :
    ((present entries).map (·.1)).Sublist (entries.map (·.1)) := by
  induction entries with
  | nil => exact List.Sublist.slnil
  | cons entry entries induction =>
      obtain ⟨name, value⟩ := entry
      cases value with
      | none => exact induction.cons name
      | some value => exact induction.cons_cons name

theorem latest_present {name : String} {value : Option Value}
    {entries : List (String × Option Value)} (nodup : (entries.map (·.1)).Nodup)
    (member : (name, value) ∈ entries) : latest? name (present entries) = value := by
  cases value with
  | none =>
      refine latest_eq_none_iff.2 ?_
      rintro ⟨other, value⟩ found rfl
      have same := List.inj_on_of_nodup_map nodup member (mem_present.1 found) rfl
      cases same
  | some value =>
      exact latest_of_nodup (nodup.sublist (present_names_sublist entries)) (mem_present.2 member)

theorem bind_map_written {Given : Type} {written : Given → Value} {meaning : Value → Option Given}
    (means : ∀ given, meaning (written given) = some given) (given : Option Given) :
    (given.map written).bind meaning = given := by
  cases given with
  | none => rfl
  | some given => exact means given

namespace Shape

theorem reads_text (text : String) : ReadsBack Shape.text (.string text) := by
  intro tail _
  change (readQuoted (text.toList.flatMap escapeChar ++ '"' :: tail) []).map _ = _
  rw [read_quoted_written]
  rfl

theorem reads_choice {word : String} {words : List String} (known : word ∈ words) :
    ReadsBack (choice words) (.string word) := by
  intro tail _
  have visible : isSpace '"' = false := rfl
  simp only [choice, Value.write, writeQuoted, drop_space_visible visible,
    read_quoted_written word tail, if_pos known]
  rfl

theorem reads_count {count largest : Nat} (bounded : count ≤ largest)
    (exact : largest < significandBound) :
    ReadsBack (Shape.count largest) (.number (.integer count)) := by
  intro tail stops
  have read := read_number_written (Nat.lt_of_le_of_lt bounded exact) stops false
  obtain ⟨first, others, digits, digit⟩ := to_digits_begins count
  change Shape.count largest (Nat.toDigits 10 count ++ tail) = _
  rw [digits, List.cons_append] at read ⊢
  rw [Shape.count, drop_space_visible (not_is_space_of_is_digit digit)]
  split
  · next same => exact absurd (List.cons.inj same).1 (ne_of_is_digit digit rfl)
  · next same =>
      cases same
      rw [if_pos digit, read]
      exact if_pos ⟨Int.natCast_nonneg count, Int.ofNat_le.2 bounded⟩
  · next same => cases same

/-- A value other than null may stand where null may. -/
theorem reads_optional {shape : Reader} {value : Value} (reads : ReadsBack shape value)
    (exact : ∀ number, value = .number number → number.IsExact) (notNull : value ≠ .null) :
    ReadsBack (optional shape) value := by
  intro tail stops
  obtain ⟨first, rest, written, visible, _, null⟩ := write_begins exact tail
  have read := reads tail stops
  rw [written] at read ⊢
  rw [optional, drop_space_visible visible]
  split
  · next same => exact absurd (null (List.cons.inj same).1) notNull
  · exact read

theorem reads_optional_text (text : String) : ReadsBack (optional Shape.text) (.string text) :=
  reads_optional (reads_text text) nofun nofun

def textEntry (members : List (String × Value)) (name : String) (afterName : List Char) :
    Result (List (String × Value)) :=
  match readColon afterName with
  | .error fault => .error fault
  | .ok start =>
      match text start with
      | .error fault => .error fault
      | .ok (value, after) => .ok ((name, value) :: members, after)

theorem reads_text_map {members : List (String × Value)}
    (texts : ∀ member ∈ members, ∃ text, member.2 = .string text) :
    ReadsBack textMap (.object members) := by
  intro tail _
  have takes : TakesMembers textEntry List.reverse members := by
    intro before name value behind tail whole stops
    obtain ⟨text, same⟩ := texts (name, value) (by rw [← whole]; simp)
    cases same
    rw [textEntry, read_colon_written]
    dsimp only
    rw [reads_text text tail stops, List.reverse_concat]
  have folded := fold_members_written takes tail
  rw [List.reverse_nil] at folded
  change (foldMembers textEntry (Value.writeMembers members true ('}' :: tail)) true []
    (Value.writeMembers members true ('}' :: tail))).map _ = _
  rw [folded]
  exact congrArg (fun members => Except.ok (Value.object members, tail))
    (List.reverse_reverse members)

/-- A field reads back the value that its record has for it, or may be missing. -/
inductive Field.ReadsEntry : Field → String × Option Value → Prop where
  | written {field : Field} {value : Value} (reads : ReadsBack field.shape value) :
      ReadsEntry field (field.name, some value)
  | missing {field : Field} (mayMiss : field.mayMiss = true) : ReadsEntry field (field.name, none)

theorem reads_defaulted {Given : Type} {written : Given → Value} {shape : Reader}
    (reads : ∀ given, ReadsBack shape (written given)) (name : String) (given : Option Given) :
    (defaulted name shape).ReadsEntry (name, given.map written) := by
  cases given with
  | none => exact .missing rfl
  | some given => exact .written (reads given)

abbrev FieldsRead : List Field → List (String × Option Value) → Prop :=
  List.Forall₂ Field.ReadsEntry

theorem FieldsRead.names {fields : List Field} {entries : List (String × Option Value)}
    (reads : FieldsRead fields entries) : entries.map (·.1) = fields.map (·.name) := by
  induction reads with
  | nil => rfl
  | cons entry _ induction =>
      rw [List.map_cons, List.map_cons, induction]
      cases entry <;> rfl

theorem FieldsRead.field {fields : List Field} {entries : List (String × Option Value)}
    (reads : FieldsRead fields entries) {name : String} {value : Value}
    (member : (name, some value) ∈ entries) :
    ∃ field ∈ fields, field.name = name ∧ ReadsBack field.shape value := by
  induction reads with
  | nil => cases member
  | @cons field entry _ _ first _ induction =>
      rcases List.mem_cons.1 member with same | later
      · subst same
        cases first with
        | written reads => exact ⟨field, List.mem_cons_self, rfl, reads⟩
      · obtain ⟨field, among, named, reads⟩ := induction later
        exact ⟨field, List.mem_cons_of_mem _ among, named, reads⟩

theorem FieldsRead.complete {fields : List Field} {entries : List (String × Option Value)}
    (reads : FieldsRead fields entries) :
    ∀ field ∈ fields, field.mayMiss = true ∨ ∃ value, (field.name, some value) ∈ entries := by
  induction reads with
  | nil => nofun
  | cons first _ induction =>
      refine List.forall_mem_cons.2 ⟨?_, fun field member => ?_⟩
      · cases first with
        | written => exact .inr ⟨_, List.mem_cons_self⟩
        | missing mayMiss => exact .inl mayMiss
      · exact (induction field member).imp_right fun ⟨value, among⟩ =>
          ⟨value, List.mem_cons_of_mem _ among⟩

theorem find_field {fields : List Field} (nodup : (fields.map (·.name)).Nodup) {field : Field}
    (member : field ∈ fields) : fields.find? (·.name = field.name) = some field := by
  induction fields with
  | nil => cases member
  | cons other fields induction =>
      rw [List.map_cons, List.nodup_cons] at nodup
      rw [List.find?_cons]
      rcases List.mem_cons.1 member with rfl | later
      · rw [decide_eq_true rfl]
      · have different : other.name ≠ field.name := fun same =>
          nodup.1 (same ▸ List.mem_map_of_mem later)
        rw [decide_eq_false different]
        exact induction nodup.2 later

theorem record_of_fold {fields : List Field} {start after : List Char}
    {done : List (String × Value)}
    (folded : foldMembers (member fields) start true [] start = .ok (done, after))
    (complete : ∀ field ∈ fields, field.mayMiss = true ∨ ∃ value, (field.name, value) ∈ done) :
    record fields ('{' :: start) = .ok (.object done.reverse, after) := by
  have all : (fields.all fun field => field.mayMiss || done.any (·.1 = field.name)) = true := by
    refine List.all_eq_true.2 fun field member => ?_
    rcases complete field member with mayMiss | ⟨value, among⟩
    · rw [mayMiss, Bool.true_or]
    · rw [List.any_eq_true.2 ⟨(field.name, value), among, decide_eq_true rfl⟩, Bool.or_true]
  rw [record, drop_space_visible (show isSpace '{' = false from rfl)]
  split
  · next same =>
      cases same
      rw [folded]
      exact if_pos all
  · next same => exact absurd (List.cons.inj same).1 (by decide)
  · next other _ => exact absurd rfl (other start)

theorem reads_record {fields : List Field} {entries : List (String × Option Value)}
    (nodup : (fields.map (·.name)).Nodup) (reads : FieldsRead fields entries) :
    ReadsBack (record fields) (.object (present entries)) := by
  intro tail _
  have once : ((present entries).map (·.1)).Nodup :=
    (reads.names ▸ nodup).sublist (present_names_sublist entries)
  have takes : TakesMembers (member fields) List.reverse (present entries) := by
    intro before name value behind tail whole stops
    have among : (name, some value) ∈ entries := mem_present.1 (by rw [← whole]; simp)
    obtain ⟨field, known, rfl, reads⟩ := reads.field among
    have fresh : before.reverse.any (·.1 = field.name) = false := by
      rw [← whole, List.map_append, List.map_cons, List.nodup_middle, List.nodup_cons] at once
      rw [List.any_reverse, List.any_eq_false]
      intro earlier member same
      exact once.1 (List.mem_append_left _
        (List.mem_map.2 ⟨earlier, member, of_decide_eq_true same⟩))
    rw [member, find_field nodup known]
    dsimp only
    rw [fresh, if_neg Bool.false_ne_true, read_colon_written]
    dsimp only
    rw [reads tail stops, List.reverse_concat]
  have folded := fold_members_written takes tail
  rw [List.reverse_nil] at folded
  have read := record_of_fold folded fun field member =>
    (reads.complete field member).imp_right fun ⟨value, among⟩ =>
      ⟨value, List.mem_reverse.2 (mem_present.2 among)⟩
  rwa [List.reverse_reverse] at read

theorem decode_compact {Given : Type} {shape : Reader} {meaning : Value → Option Given}
    {value : Value} {given : Given} (reads : ReadsBack shape value)
    (means : meaning value = some given) : decode shape meaning value.compact = .ok given := by
  have read : whole shape value.compact.toList = .ok value := by
    rw [Value.compact, String.toList_ofList]
    exact complete_eq_ok.2 ⟨[], reads [] rfl, rfl⟩
  rw [decode, decodeChars, read]
  dsimp only
  rw [means]

end Shape

end ReconChat.Json

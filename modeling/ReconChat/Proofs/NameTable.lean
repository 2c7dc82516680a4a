import Mathlib.Data.List.Nodup
import Mathlib.Data.List.Sort
import ReconChat.NameTable

/-!
Looking up names. In entries that increase by name a name has at most one entry, so that looking
it up and finding it in the list are the same, and putting an entry changes what its own name
gives and nothing else. Nothing is said here about entries in any other order, except how one
lookup follows from another.
-/

namespace ReconChat

variable {Entry Other : Type} {name : String}

theorem latest_cons (other : String) (entry : Entry) (entries : List (String × Entry)) :
    latest? name ((other, entry) :: entries) =
      (latest? name entries).or (if name = other then some entry else none) := by
  rw [latest?]
  cases latest? name entries <;> rfl

theorem latest_map (change : Entry → Other) (entries : List (String × Entry)) :
    latest? name (entries.map fun pair => (pair.1, change pair.2)) =
      (latest? name entries).map change := by
  induction entries with
  | nil => rfl
  | cons pair entries induction =>
      rw [List.map_cons, latest_cons, latest_cons, induction]
      cases latest? name entries with
      | none => by_cases same : name = pair.1 <;> simp [same]
      | some entry => rfl

theorem mem_of_latest {entry : Entry} {entries : List (String × Entry)}
    (found : latest? name entries = some entry) : (name, entry) ∈ entries := by
  induction entries with
  | nil => cases found
  | cons pair entries induction =>
      obtain ⟨other, kept⟩ := pair
      rw [latest_cons] at found
      cases later : latest? name entries with
      | some last =>
          rw [later, Option.some_or] at found
          cases found
          exact List.mem_cons_of_mem _ (induction later)
      | none =>
          rw [later, Option.none_or] at found
          split at found
          · next same =>
              cases found
              rw [same]
              exact List.mem_cons_self
          · cases found

theorem latest_eq_none {entries : List (String × Entry)}
    (less : ∀ pair ∈ entries, name < pair.1) : latest? name entries = none := by
  cases found : latest? name entries with
  | none => rfl
  | some entry => exact absurd (less _ (mem_of_latest found)) (String.lt_irrefl name)

theorem latest_of_mem {entry : Entry} {entries : List (String × Entry)}
    (increase : NamesIncrease entries) (member : (name, entry) ∈ entries) :
    latest? name entries = some entry := by
  induction entries with
  | nil => cases member
  | cons pair entries induction =>
      obtain ⟨first, tail⟩ := List.pairwise_cons.1 increase
      rw [latest_cons]
      rcases List.mem_cons.1 member with same | later
      · subst same
        rw [latest_eq_none first, Option.none_or, if_pos rfl]
      · rw [induction tail later, Option.some_or]

theorem mem_iff_latest {entry : Entry} {entries : List (String × Entry)}
    (increase : NamesIncrease entries) :
    (name, entry) ∈ entries ↔ latest? name entries = some entry :=
  ⟨latest_of_mem increase, mem_of_latest⟩

theorem latest_put_entry (other : String) (entry : Entry) {entries : List (String × Entry)}
    (increase : NamesIncrease entries) :
    latest? name (putEntry other entry entries) =
      if name = other then some entry else latest? name entries := by
  induction entries with
  | nil => simp [putEntry, latest?]
  | cons pair entries induction =>
      obtain ⟨kept, value⟩ := pair
      obtain ⟨first, tail⟩ := List.pairwise_cons.1 increase
      rw [putEntry]
      split
      · next replaced =>
          subst replaced
          rw [latest_cons, latest_cons]
          by_cases same : name = other
          · subst same
            rw [latest_eq_none first, Option.none_or, if_pos rfl, if_pos rfl]
          · simp [same]
      · next different =>
          split
          · next before =>
              have behind : latest? other ((kept, value) :: entries) = none := by
                refine latest_eq_none ?_
                intro pair member
                rcases List.mem_cons.1 member with same | later
                · exact same ▸ before
                · exact String.lt_trans before (first pair later)
              rw [latest_cons]
              by_cases same : name = other
              · rw [same, behind, Option.none_or]
              · simp [same]
          · rw [latest_cons, latest_cons, induction tail]
            by_cases same : name = other
            · simp [same]
            · simp [same]

theorem latest_eq_none_iff {entries : List (String × Entry)} :
    latest? name entries = none ↔ ∀ pair ∈ entries, name ≠ pair.1 := by
  induction entries with
  | nil => simp [latest?]
  | cons pair entries induction =>
      rw [latest_cons, Option.or_eq_none_iff, induction, List.forall_mem_cons, And.comm]
      simp

theorem latest_of_nodup {entry : Entry} {entries : List (String × Entry)}
    (nodup : (entries.map (·.1)).Nodup) (member : (name, entry) ∈ entries) :
    latest? name entries = some entry := by
  cases found : latest? name entries with
  | none => exact absurd rfl (latest_eq_none_iff.1 found (name, entry) member)
  | some other =>
      have same := List.inj_on_of_nodup_map nodup (mem_of_latest found) member rfl
      cases same
      rfl

theorem latest_filter (keep : String × Entry → Bool) (kept : ∀ entry, keep (name, entry) = true)
    (entries : List (String × Entry)) :
    latest? name (entries.filter keep) = latest? name entries := by
  induction entries with
  | nil => rfl
  | cons pair entries induction =>
      obtain ⟨other, entry⟩ := pair
      rw [latest_cons, List.filter_cons]
      split
      · rw [latest_cons, induction]
      · next dropped =>
          have different : name ≠ other := by
            rintro rfl
            exact dropped (kept entry)
          rw [induction, if_neg different, Option.or_none]

theorem put_entry_map (change : Entry → Other) (entry : Entry) (entries : List (String × Entry)) :
    (putEntry name entry entries).map (fun pair => (pair.1, change pair.2)) =
      putEntry name (change entry) (entries.map fun pair => (pair.1, change pair.2)) := by
  induction entries with
  | nil => rfl
  | cons pair entries induction =>
      simp only [putEntry, List.map_cons]
      split
      · rfl
      · split
        · rfl
        · rw [List.map_cons, induction]

theorem put_entry_last {entry : Entry} {entries : List (String × Entry)}
    (last : ∀ pair ∈ entries, pair.1 < name) :
    putEntry name entry entries = entries ++ [(name, entry)] := by
  induction entries with
  | nil => rfl
  | cons pair entries induction =>
      obtain ⟨other, kept⟩ := pair
      rw [List.forall_mem_cons] at last
      have before : other < name := last.1
      have different : name ≠ other := by
        rintro rfl
        exact String.lt_irrefl name before
      have behind : ¬name < other := fun after =>
        String.lt_irrefl other (String.lt_trans before after)
      rw [putEntry, if_neg different, if_neg behind, induction last.2, List.cons_append]

/-- Entries in order are settled by which there are. -/
theorem eq_of_same_entries {first second : List (String × Entry)} (increase : NamesIncrease first)
    (increases : NamesIncrease second) (same : ∀ pair, pair ∈ first ↔ pair ∈ second) :
    first = second := by
  let Before (earlier later : String × Entry) : Prop := earlier.1 < later.1
  have : Std.Irrefl Before := ⟨fun pair => String.lt_irrefl pair.1⟩
  have : Std.Antisymm Before := ⟨fun pair other before after =>
    absurd (String.lt_trans before after) (String.lt_irrefl pair.1)⟩
  exact List.Pairwise.eq_of_mem_iff (r := Before) increase increases same

theorem eq_of_latest {first second : List (String × Entry)} (increase : NamesIncrease first)
    (increases : NamesIncrease second)
    (same : ∀ name, latest? name first = latest? name second) : first = second := by
  refine eq_of_same_entries increase increases ?_
  intro pair
  rw [mem_iff_latest increase, mem_iff_latest increases, same]

theorem latest_of_perm {entries others : List (String × Entry)}
    (nodup : (entries.map (·.1)).Nodup) (perm : entries.Perm others) :
    latest? name entries = latest? name others := by
  have nodups : (others.map (·.1)).Nodup := (perm.map _).nodup_iff.1 nodup
  rw [Option.ext_iff]
  intro entry
  constructor
  · intro found
    exact latest_of_nodup nodups (perm.mem_iff.1 (mem_of_latest found))
  · intro found
    exact latest_of_nodup nodup (perm.mem_iff.2 (mem_of_latest found))

namespace NameTable

theorem eq_of_entries {left right : NameTable Entry} (same : left.entries = right.entries) :
    left = right := by
  cases left
  cases right
  cases same
  rfl

theorem put_all_entries {table : NameTable Entry} (pairs : List (String × Entry))
    (increase : NamesIncrease (table.entries ++ pairs)) :
    (pairs.foldl (fun table pair => table.put pair.1 pair.2) table).entries =
      table.entries ++ pairs := by
  induction pairs generalizing table with
  | nil => rw [List.append_nil]; rfl
  | cons pair pairs induction =>
      have last : ∀ other ∈ table.entries, other.1 < pair.1 := fun other member =>
        (List.pairwise_append.1 increase).2.2 other member pair List.mem_cons_self
      have put : (table.put pair.1 pair.2).entries = table.entries ++ [pair] :=
        put_entry_last last
      rw [List.foldl_cons, induction (by rw [put, List.append_assoc]; exact increase), put,
        List.append_assoc, List.singleton_append]

theorem of_list_entries (table : NameTable Entry) : ofList table.entries = table :=
  eq_of_entries (put_all_entries table.entries table.sorted)

end NameTable

end ReconChat

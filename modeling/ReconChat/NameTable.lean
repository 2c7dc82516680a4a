/-!
Tables from names to entries, in the order of the names and with each name once. Names are
ordered by their code points, which is also the order of their UTF-8 bytes. The order is part
of the type, so that two tables with the same entries are equal.
-/

namespace ReconChat

def NamesIncrease {Entry : Type} (entries : List (String × Entry)) : Prop :=
  entries.Pairwise fun earlier later => earlier.1 < later.1

instance {Entry : Type} (entries : List (String × Entry)) : Decidable (NamesIncrease entries) :=
  inferInstanceAs (Decidable (List.Pairwise _ _))

/-- Puts an entry into a list sorted by name, in place of an entry of the same name. -/
def putEntry {Entry : Type} (name : String) (entry : Entry) :
    List (String × Entry) → List (String × Entry)
  | [] => [(name, entry)]
  | (other, kept) :: rest =>
      if name = other then (name, entry) :: rest
      else if name < other then (name, entry) :: (other, kept) :: rest
      else (other, kept) :: putEntry name entry rest

def latest? {Entry : Type} (name : String) : List (String × Entry) → Option Entry
  | [] => none
  | (other, entry) :: rest =>
      match latest? name rest with
      | some later => some later
      | none => if name = other then some entry else none

theorem mem_put_entry {Entry : Type} {name : String} {entry : Entry}
    {entries : List (String × Entry)} {pair : String × Entry}
    (member : pair ∈ putEntry name entry entries) : pair = (name, entry) ∨ pair ∈ entries := by
  induction entries with
  | nil => simpa [putEntry] using member
  | cons head rest induction =>
      obtain ⟨other, kept⟩ := head
      simp only [putEntry] at member
      split at member
      · rcases List.mem_cons.1 member with same | later
        · exact .inl same
        · exact .inr (List.mem_cons_of_mem _ later)
      · split at member
        · rcases List.mem_cons.1 member with same | later
          · exact .inl same
          · exact .inr later
        · rcases List.mem_cons.1 member with same | later
          · exact .inr (same ▸ List.mem_cons_self)
          · rcases induction later with same | old
            · exact .inl same
            · exact .inr (List.mem_cons_of_mem _ old)

theorem names_increase_put_entry {Entry : Type} (name : String) (entry : Entry)
    {entries : List (String × Entry)} (sorted : NamesIncrease entries) :
    NamesIncrease (putEntry name entry entries) := by
  induction entries with
  | nil => simp [putEntry, NamesIncrease]
  | cons head rest induction =>
      obtain ⟨other, kept⟩ := head
      obtain ⟨first, tail⟩ := List.pairwise_cons.1 sorted
      simp only [putEntry]
      split
      · rename_i same
        subst same
        exact List.pairwise_cons.2 ⟨first, tail⟩
      · rename_i different
        split
        · rename_i before
          refine List.pairwise_cons.2 ⟨?_, sorted⟩
          intro pair member
          rcases List.mem_cons.1 member with same | later
          · exact same ▸ before
          · exact String.lt_trans before (first pair later)
        · rename_i notBefore
          have after : other < name :=
            (Std.lt_of_le_of_ne (String.not_lt.1 notBefore) (fun same => different same.symm))
          refine List.pairwise_cons.2 ⟨?_, induction tail⟩
          intro pair member
          rcases mem_put_entry member with same | old
          · exact same ▸ after
          · exact first pair old

structure NameTable (Entry : Type) where
  entries : List (String × Entry)
  sorted : NamesIncrease entries
deriving DecidableEq

namespace NameTable

def empty {Entry : Type} : NameTable Entry := ⟨[], List.Pairwise.nil⟩

def put {Entry : Type} (table : NameTable Entry) (name : String) (entry : Entry) :
    NameTable Entry :=
  ⟨putEntry name entry table.entries, names_increase_put_entry name entry table.sorted⟩

/-- The table of a list of pairs; of several entries of one name the last counts. -/
def ofList {Entry : Type} (pairs : List (String × Entry)) : NameTable Entry :=
  pairs.foldl (fun table pair => table.put pair.1 pair.2) empty

example : (ofList [("b", 1), ("a", 2), ("b", 3)]).entries = [("a", 2), ("b", 3)] := by decide

end NameTable

end ReconChat

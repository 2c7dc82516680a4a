import ReconChat.Json.Value
import ReconChat.Proofs.NameTable

/-!
Members in canonical order. They increase by name, and looking a name up gives the canonical form
of the last value that the object had for it. The canonical form of a canonical value is the value
itself.
-/

namespace ReconChat.Json.Value

theorem string_canonical (value : Value) : value.canonical.string? = value.string? := by
  cases value <;> rfl

theorem canonical_members_increase (members : List (String × Value))
    {sorted : List (String × Value)} (increase : NamesIncrease sorted) :
    NamesIncrease (canonicalMembers members sorted) := by
  induction members generalizing sorted with
  | nil => rwa [canonicalMembers]
  | cons member members induction =>
      rw [canonicalMembers]
      exact induction (names_increase_put_entry _ _ increase)

theorem latest_canonical_members (name : String) (members : List (String × Value))
    {sorted : List (String × Value)} (increase : NamesIncrease sorted) :
    latest? name (canonicalMembers members sorted) =
      ((latest? name members).map canonical).or (latest? name sorted) := by
  induction members generalizing sorted with
  | nil => rw [canonicalMembers, latest?, Option.map_none, Option.none_or]
  | cons member members induction =>
      obtain ⟨other, value⟩ := member
      rw [canonicalMembers, induction (names_increase_put_entry _ _ increase), latest_cons,
        latest_put_entry _ _ increase]
      cases latest? name members with
      | some last => rfl
      | none => by_cases same : name = other <;> simp [same]

/-- The order of members whose names are all different does not matter, nor does the order inside
their values. -/
theorem canonical_members_of_perm {members others : List (String × Value)}
    (nodup : (members.map (·.1)).Nodup)
    (perm : (members.map fun pair => (pair.1, pair.2.canonical)).Perm
      (others.map fun pair => (pair.1, pair.2.canonical))) :
    canonicalMembers members [] = canonicalMembers others [] := by
  refine eq_of_latest (canonical_members_increase _ List.Pairwise.nil)
    (canonical_members_increase _ List.Pairwise.nil) ?_
  intro name
  rw [latest_canonical_members _ _ List.Pairwise.nil,
    latest_canonical_members _ _ List.Pairwise.nil, ← latest_map, ← latest_map,
    latest_of_perm _ perm]
  rwa [List.map_map]

theorem canonical_items_eq_map (items : List Value) :
    canonicalItems items = items.map canonical := by
  induction items with
  | nil => rfl
  | cons item items induction => rw [canonicalItems, induction, List.map_cons]

theorem mem_canonical_items {items : List Value} {item : Value}
    (member : item ∈ canonicalItems items) : ∃ source ∈ items, item = source.canonical := by
  rw [canonical_items_eq_map] at member
  obtain ⟨source, inside, same⟩ := List.mem_map.1 member
  exact ⟨source, inside, same.symm⟩

theorem mem_canonical_members {members sorted : List (String × Value)} {pair : String × Value}
    (member : pair ∈ canonicalMembers members sorted) :
    pair ∈ sorted ∨ ∃ value, (pair.1, value) ∈ members ∧ pair.2 = value.canonical := by
  induction members generalizing sorted with
  | nil => exact .inl member
  | cons first members induction =>
      rcases induction member with put | ⟨value, inside, same⟩
      · rcases mem_put_entry put with rfl | kept
        · exact .inr ⟨first.2, List.mem_cons_self, rfl⟩
        · exact .inl kept
      · exact .inr ⟨value, List.mem_cons_of_mem _ inside, same⟩

theorem canonical_members_of_increase {members sorted : List (String × Value)}
    (increase : NamesIncrease (sorted ++ members))
    (fixed : ∀ pair ∈ members, pair.2.canonical = pair.2) :
    canonicalMembers members sorted = sorted ++ members := by
  induction members generalizing sorted with
  | nil => rw [canonicalMembers, List.append_nil]
  | cons pair members induction =>
      rw [List.forall_mem_cons] at fixed
      have last : ∀ other ∈ sorted, other.1 < pair.1 := by
        intro other member
        exact (List.pairwise_append.1 increase).2.2 other member pair List.mem_cons_self
      rw [canonicalMembers, put_entry_last last, fixed.1,
        induction (by rwa [List.append_assoc]) fixed.2, List.append_assoc, List.singleton_append]

mutual

theorem canonical_canonical : ∀ value : Value, value.canonical.canonical = value.canonical
  | .null | .bool _ | .number _ | .string _ => rfl
  | .array items => by rw [canonical, canonical, canonical_items_canonical items]
  | .object members => by
      have fixed : ∀ pair ∈ canonicalMembers members [], pair.2.canonical = pair.2 := by
        intro pair member
        rcases mem_canonical_members member with nothing | ⟨value, inside, same⟩
        · cases nothing
        · rw [same]
          exact canonical_values members (pair.1, value) inside
      rw [canonical, canonical, canonical_members_of_increase
        (canonical_members_increase members List.Pairwise.nil) fixed]
      rfl

theorem canonical_items_canonical :
    ∀ items : List Value, canonicalItems (canonicalItems items) = canonicalItems items
  | [] => rfl
  | item :: items => by
      rw [canonicalItems, canonicalItems, canonical_canonical item, canonical_items_canonical items]

theorem canonical_values : ∀ members : List (String × Value),
    ∀ pair ∈ members, pair.2.canonical.canonical = pair.2.canonical
  | [] => by simp
  | (name, value) :: members =>
      List.forall_mem_cons.2 ⟨canonical_canonical value, canonical_values members⟩

end

end ReconChat.Json.Value

import ReconChat.Proofs.Json.Reading

/-!
The two folds over entries. A fold that ends well has gone from turn to turn, entry by entry, to a
closing bracket; what holds there and goes back over every entry holds where the fold began.
Nothing is said about what is done with an entry, nor about folds that fail.
-/

namespace ReconChat.Json

section Items

variable {State : Type} {item : State → List Char → Result State} {clock : List Char} {tick : Char}
  {first : Bool} {state next final : State} {chars start after rest : List Char}

theorem fold_items_closed (turn : listTurn first chars = .ok (.closed rest)) :
    foldItems item clock first state chars = .ok (state, rest) := by
  cases clock <;> rw [foldItems, turn]

theorem fold_items_entry (turn : listTurn first chars = .ok (.entry start))
    (entry : item state start = .ok (next, after)) :
    foldItems item (tick :: clock) first state chars = foldItems item clock false next after := by
  rw [foldItems, turn]
  dsimp only
  rw [entry]

/-- Goes back from the end of a list, item by item. -/
theorem fold_items_induction (Along : List Char → Bool → State → List Char → Prop)
    (closed : ∀ {clock first chars}, listTurn first chars = .ok (.closed rest) →
      Along clock first final chars)
    (entry : ∀ {tick clock first state next chars start after},
      listTurn first chars = .ok (.entry start) → item state start = .ok (next, after) →
        Along clock false next after → Along (tick :: clock) first state chars)
    (read : foldItems item clock first state chars = .ok (final, rest)) :
    Along clock first state chars := by
  induction clock generalizing first state chars with
  | nil =>
      rw [foldItems] at read
      split at read <;> cases read
      next turn => exact closed turn
  | cons _ clock induction =>
      rw [foldItems] at read
      split at read
      · cases read
      · next turn =>
          cases read
          exact closed turn
      · next turn =>
          dsimp only at read
          split at read
          · cases read
          · next given => exact entry turn given (induction read)

theorem fold_items_holds (Holds : State → Prop)
    (preserved : ∀ {state next chars rest},
      Holds state → item state chars = .ok (next, rest) → Holds next)
    (holds : Holds state) (read : foldItems item clock first state chars = .ok (final, rest)) :
    Holds final := by
  refine fold_items_induction (fun _ _ state _ => Holds state → Holds final) ?_ ?_ read holds
  · exact fun _ => id
  · exact fun _ entry later holds => later (preserved holds entry)

end Items

section Members

variable {State : Type} {member : State → String → List Char → Result State} {clock : List Char}
  {tick : Char} {first : Bool} {state next final : State} {name : String}
  {chars start afterName after rest : List Char}

theorem fold_members_closed (turn : objectTurn first chars = .ok (.closed rest)) :
    foldMembers member clock first state chars = .ok (state, rest) := by
  cases clock <;> rw [foldMembers, turn]

theorem fold_members_entry (turn : objectTurn first chars = .ok (.entry start))
    (named : readQuoted start [] = .ok (name, afterName))
    (entry : member state name afterName = .ok (next, after)) :
    foldMembers member (tick :: clock) first state chars =
      foldMembers member clock false next after := by
  rw [foldMembers, turn]
  dsimp only
  rw [named]
  dsimp only
  rw [entry]

theorem fold_members_induction (Along : List Char → Bool → State → List Char → Prop)
    (closed : ∀ {clock first chars}, objectTurn first chars = .ok (.closed rest) →
      Along clock first final chars)
    (entry : ∀ {tick clock first state next name chars start afterName after},
      objectTurn first chars = .ok (.entry start) →
        readQuoted start [] = .ok (name, afterName) →
        member state name afterName = .ok (next, after) →
        Along clock false next after → Along (tick :: clock) first state chars)
    (read : foldMembers member clock first state chars = .ok (final, rest)) :
    Along clock first state chars := by
  induction clock generalizing first state chars with
  | nil =>
      rw [foldMembers] at read
      split at read <;> cases read
      next turn => exact closed turn
  | cons _ clock induction =>
      rw [foldMembers] at read
      split at read
      · cases read
      · next turn =>
          cases read
          exact closed turn
      · next turn =>
          dsimp only at read
          split at read
          · cases read
          · next named =>
              split at read
              · cases read
              · next given => exact entry turn named given (induction read)

theorem fold_members_holds (Holds : State → Prop)
    (preserved : ∀ {state next name chars rest},
      Holds state → member state name chars = .ok (next, rest) → Holds next)
    (holds : Holds state)
    (read : foldMembers member clock first state chars = .ok (final, rest)) : Holds final := by
  refine fold_members_induction (fun _ _ state _ => Holds state → Holds final) ?_ ?_ read holds
  · exact fun _ => id
  · exact fun _ _ entry later holds => later (preserved holds entry)

theorem fold_members_follow {Other : Type} {other : Other → String → List Char → Result Other}
    {Follows : Other → State → Prop}
    (step : ∀ {state next follower name chars rest}, Follows follower state →
      member state name chars = .ok (next, rest) →
        ∃ after, other follower name chars = .ok (after, rest) ∧ Follows after next)
    {follower : Other} (follows : Follows follower state)
    (read : foldMembers member clock first state chars = .ok (final, rest)) :
    ∃ last, foldMembers other clock first follower chars = .ok (last, rest) ∧
      Follows last final := by
  refine fold_members_induction
    (fun clock first state chars => ∀ follower, Follows follower state → ∃ last,
      foldMembers other clock first follower chars = .ok (last, rest) ∧ Follows last final)
    ?_ ?_ read follower follows
  · intro clock first chars turn follower follows
    exact ⟨follower, fold_members_closed turn, follows⟩
  · intro tick clock first state next name chars start afterName after turn named entry later
      follower follows
    obtain ⟨follower', same, follows'⟩ := step follows entry
    rw [fold_members_entry turn named same]
    exact later follower' follows'

end Members

end ReconChat.Json

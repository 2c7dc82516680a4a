import ReconChat.Proofs.Json.Scalars

/-!
Values that are passed over. Whatever is read as a value, at any depth, is passed over as well, and
what is left behind it is the same. Skipping keeps its brackets on a list and reading recurses, so
that a reading is turned into a run of the steps, bracket by bracket. Skipping lets more through
than reading does; nothing is said about what that is.
-/

namespace ReconChat.Json

def Skipping.left : Skipping → List Char
  | .done rest => rest
  | .value _ chars => chars
  | .ended _ chars => chars

theorem left_settle (opened : List Bracket) (rest : List Char) :
    (Skipping.settle opened rest).left = rest := by
  cases opened <;> rfl

/-- Skipping goes from here to there, and what is left of a clock that is longer than the text
is still longer than it. -/
def Leads (here there : Skipping) : Prop :=
  ∀ clock : List Char, here.left.length < clock.length →
    ∃ later : List Char, there.left.length < later.length ∧
      skipSteps clock here = skipSteps later there

namespace Leads

variable {here middle there next : Skipping} {bracket : Bracket} {opened : List Bracket}
  {chars : List Char}

theorem trans (first : Leads here middle) (second : Leads middle there) : Leads here there := by
  intro clock clocked
  obtain ⟨later, stillClocked, same⟩ := first clock clocked
  obtain ⟨last, lastClocked, sameAgain⟩ := second later stillClocked
  exact ⟨last, lastClocked, same.trans sameAgain⟩

theorem refl (here : Skipping) : Leads here here :=
  fun clock clocked => ⟨clock, clocked, rfl⟩

theorem of_start (step : skipStart opened chars = .ok next)
    (shorter : next.left.length < chars.length) : Leads (.value opened chars) next := by
  intro clock clocked
  change chars.length < clock.length at clocked
  cases clock with
  | nil => cases clocked
  | cons tick clock =>
      refine ⟨clock, by rw [List.length_cons] at clocked; omega, ?_⟩
      rw [skipSteps, step]

theorem of_end (step : skipEnd bracket opened chars = .ok next)
    (shorter : next.left.length < chars.length) :
    Leads (.ended (bracket :: opened) chars) next := by
  intro clock clocked
  change chars.length < clock.length at clocked
  cases clock with
  | nil => cases clocked
  | cons tick clock =>
      refine ⟨clock, by rw [List.length_cons] at clocked; omega, ?_⟩
      rw [skipSteps, step]

end Leads

theorem length_of_drop_space {char : Char} {chars rest : List Char}
    (spaced : dropSpace chars = char :: rest) : rest.length < chars.length := by
  obtain ⟨spaces, same, _⟩ := drop_space_leaves chars
  rw [same, spaced, List.length_append, List.length_cons]
  omega

def Bracket.close : Bracket → Char
  | .list => ']'
  | .object => '}'

/-- Where the next entry is looked for: at the first character inside the bracket, which does not
close it, or behind a comma. -/
inductive Awaits (close : Char) : (first : Bool) → List Char → List Char → Prop where
  | first {char : Char} {chars rest : List Char} :
      dropSpace chars = char :: rest → char ≠ close → Awaits close true chars (char :: rest)
  | next {chars rest : List Char} : dropSpace chars = ',' :: rest → Awaits close false chars rest

/-- What skipping does inside a bracket, in front of an entry or of the end. -/
def skipTurn (first : Bool) (bracket : Bracket) (opened : List Bracket) (chars : List Char) :
    Except Fault Skipping :=
  if first then openBracket bracket opened chars else skipEnd bracket opened chars

section Turns

variable {first : Bool} {bracket : Bracket} {opened : List Bracket} {chars start rest : List Char}

theorem skip_turn_closed (closed : dropSpace chars = bracket.close :: rest) :
    skipTurn first bracket opened chars = .ok (.settle opened rest) := by
  cases first <;> cases bracket <;>
    simp only [skipTurn, openBracket.eq_def, skipEnd.eq_def, closed, Bracket.close, if_true] <;> rfl

theorem skip_turn_awaits (awaits : Awaits bracket.close first chars start) :
    skipTurn first bracket opened chars =
      (skipToValue bracket start).map fun after => .value (bracket :: opened) after := by
  cases awaits with
  | first spaced opens =>
      rw [skipTurn, if_pos rfl, openBracket.eq_def, spaced]
      split
      · next empty => cases empty
      · next empty => cases empty
      · next closed => exact absurd (List.cons.inj closed).1 opens
      · next closed => exact absurd (List.cons.inj closed).1 opens
      · rfl
  | next comma =>
      rw [skipTurn, if_neg Bool.false_ne_true, skipEnd.eq_def, comma]
      cases bracket <;> rfl

theorem length_of_awaits {close : Char} (awaits : Awaits close first chars start) :
    start.length < chars.length + first.toNat := by
  cases awaits with
  | first spaced _ => exact Nat.succ_lt_succ (length_of_drop_space spaced)
  | next comma => exact length_of_drop_space comma

theorem closed_of_list_turn (read : listTurn first chars = .ok (.closed rest)) :
    dropSpace chars = ']' :: rest := by
  rw [listTurn] at read
  split at read
  · cases read
  · next closed =>
      cases read
      exact closed
  · split at read
    · cases read
    · split at read
      · split at read <;> cases read
      · cases read

theorem awaits_of_list_turn (read : listTurn first chars = .ok (.entry rest)) :
    ∃ start, Awaits ']' first chars start ∧ dropSpace start = rest := by
  rw [listTurn] at read
  split at read
  · cases read
  · cases read
  · next char others opens spaced =>
      split at read
      · next isFirst =>
          cases read
          subst isFirst
          refine ⟨_, .first spaced opens, ?_⟩
          rw [← spaced, drop_space_drop_space]
      · next notFirst =>
          rw [Bool.eq_false_iff.2 notFirst]
          split at read
          · next comma =>
              subst comma
              split at read <;> cases read
              exact ⟨others, .next spaced, rfl⟩
          · cases read

theorem closed_of_object_turn (read : objectTurn first chars = .ok (.closed rest)) :
    dropSpace chars = '}' :: rest := by
  rw [objectTurn] at read
  split at read
  · cases read
  · next closed =>
      cases read
      exact closed
  · split at read
    · split at read <;> cases read
    · split at read
      · split at read <;> cases read
      · cases read

theorem awaits_of_object_turn (read : objectTurn first chars = .ok (.entry rest)) :
    ∃ start, Awaits '}' first chars start ∧ dropSpace start = '"' :: rest := by
  rw [objectTurn] at read
  split at read
  · cases read
  · cases read
  · next char others opens spaced =>
      split at read
      · next isFirst =>
          subst isFirst
          split at read <;> cases read
          next quote =>
            refine ⟨_, .first spaced opens, ?_⟩
            rw [← spaced, drop_space_drop_space, spaced, quote]
      · next notFirst =>
          rw [Bool.eq_false_iff.2 notFirst]
          split at read
          · next comma =>
              subst comma
              split at read <;> cases read
              next quoted => exact ⟨others, .next spaced, quoted⟩
          · cases read

end Turns

def Closes (bracket : Bracket) (opened : List Bracket) (first : Bool) (chars rest : List Char) :
    Prop :=
  ∃ next, skipTurn first bracket opened chars = .ok next ∧
    next.left.length < chars.length + first.toNat ∧ Leads next (.settle opened rest)

namespace Closes

variable {bracket : Bracket} {opened : List Bracket} {first : Bool}
  {chars start inside after rest : List Char}

theorem of_closed (closed : dropSpace chars = bracket.close :: rest) :
    Closes bracket opened first chars rest := by
  have shorter := length_of_drop_space closed
  refine ⟨_, skip_turn_closed closed, ?_, .refl _⟩
  rw [left_settle]
  omega

theorem of_entry (awaits : Awaits bracket.close first chars start)
    (found : skipToValue bracket start = .ok inside) (shorter : inside.length ≤ start.length)
    (value : Leads (.value (bracket :: opened) inside) (.ended (bracket :: opened) after))
    (later : Closes bracket opened false after rest) :
    Closes bracket opened first chars rest := by
  obtain ⟨next, turn, left, leads⟩ := later
  have ended : Leads (.ended (bracket :: opened) after) next := .of_end turn left
  refine ⟨.value (bracket :: opened) inside, ?_, ?_, (value.trans ended).trans leads⟩
  · rw [skip_turn_awaits awaits, found]
    rfl
  · exact Nat.lt_of_le_of_lt shorter (length_of_awaits awaits)

end Closes

def PassesValues (depth : Nat) (bracket : Bracket) (opened : List Bracket) : Prop :=
  ∀ {chars rest : List Char} {value : Value}, readValue depth chars = .ok (value, rest) →
    Leads (.value (bracket :: opened) chars) (.ended (bracket :: opened) rest)

theorem closes_of_fold_items {depth : Nat} {opened : List Bracket}
    (passes : PassesValues depth .list opened) {clock : List Char} {first : Bool}
    {items final : List Value} {chars rest : List Char}
    (read : foldItems (readItem depth) clock first items chars = .ok (final, rest)) :
    Closes .list opened first chars rest := by
  refine fold_items_induction (fun _ first _ chars => Closes .list opened first chars rest)
    ?_ ?_ read
  · exact fun turn => .of_closed (closed_of_list_turn turn)
  · intro _ _ _ _ _ _ _ _ turn entry later
    obtain ⟨start, awaits, rfl⟩ := awaits_of_list_turn turn
    obtain ⟨_, taken, -⟩ := value_of_read_item entry
    rw [read_value_drop_space] at taken
    exact .of_entry awaits rfl (Nat.le_refl _) (passes taken) later

theorem skip_name_of_read {start quoted afterName inside : List Char} {name : String}
    (opens : dropSpace start = '"' :: quoted) (named : readQuoted quoted [] = .ok (name, afterName))
    (colon : readColon afterName = .ok inside) :
    skipName start = .ok inside ∧ inside.length ≤ start.length := by
  constructor
  · simp only [skipName, opens, skip_quoted_of_read_quoted named]
    exact colon
  · obtain ⟨text, same, _⟩ :=
      ((drop_space_balanced start).trans (opens ▸ read_quoted_balanced named)).trans
        (read_colon_balanced colon)
    rw [same, List.length_append]
    exact Nat.le_add_left _ _

theorem closes_of_fold_members {depth : Nat} {opened : List Bracket}
    (passes : PassesValues depth .object opened) {clock : List Char} {first : Bool}
    {members final : List (String × Value)} {chars rest : List Char}
    (read : foldMembers (readMember depth) clock first members chars = .ok (final, rest)) :
    Closes .object opened first chars rest := by
  refine fold_members_induction (fun _ first _ chars => Closes .object opened first chars rest)
    ?_ ?_ read
  · exact fun turn => .of_closed (closed_of_object_turn turn)
  · intro _ _ _ _ _ _ _ _ _ _ turn named entry later
    obtain ⟨start, awaits, opens⟩ := awaits_of_object_turn turn
    obtain ⟨_, _, colon, taken, -⟩ := value_of_read_member entry
    obtain ⟨found, shorter⟩ := skip_name_of_read opens named colon
    exact .of_entry awaits found shorter (passes taken) later

section Values

variable {opened : List Bracket} {char : Char} {chars start rest : List Char}

theorem leads_of_scalar (spaced : dropSpace chars = char :: start)
    (behind : rest.length ≤ start.length)
    (step : skipStart opened chars = .ok (.settle opened rest)) :
    Leads (.value opened chars) (.settle opened rest) := by
  apply Leads.of_start step
  rw [left_settle]
  exact Nat.lt_of_le_of_lt behind (length_of_drop_space spaced)

theorem leads_of_bracket {bracket : Bracket} (spaced : dropSpace chars = char :: start)
    (opens : skipStart opened chars = skipTurn true bracket opened start)
    (closes : Closes bracket opened true start rest) :
    Leads (.value opened chars) (.settle opened rest) := by
  obtain ⟨next, turn, left, leads⟩ := closes
  have step : skipStart opened chars = .ok next := opens.trans turn
  exact (Leads.of_start step (Nat.lt_of_lt_of_le left (length_of_drop_space spaced))).trans leads

theorem leads_of_word {word : List Char} (spaced : dropSpace chars = char :: start)
    (read : readWord word start = .ok ((), rest))
    (step : skipStart opened chars =
      (readWord word start).map fun (_, after) => .settle opened after) :
    Leads (.value opened chars) (.settle opened rest) := by
  apply leads_of_scalar spaced
  · rw [read_word_rest read, List.length_append]
    exact Nat.le_add_left _ _
  · rw [step, read]
    rfl

end Values

theorem leads_of_read_value {depth : Nat} {chars rest : List Char} {value : Value}
    (read : readValue depth chars = .ok (value, rest)) (opened : List Bracket) :
    Leads (.value opened chars) (.settle opened rest) := by
  have reading := reading_of_read_value read
  have step := skipStart.eq_def opened chars
  generalize spaced : dropSpace chars = text at reading step
  cases reading with
  | null word => exact leads_of_word spaced word step
  | true word => exact leads_of_word spaced word step
  | false word => exact leads_of_word spaced word step
  | string quoted =>
      apply leads_of_scalar spaced
      · obtain ⟨body, same, _⟩ := literal_body_of_read_quoted quoted
        rw [same, List.length_append, List.length_cons]
        omega
      · rw [step]
        change (skipQuoted _).map _ = _
        rw [skip_quoted_of_read_quoted quoted]
        rfl
  | negative number =>
      obtain ⟨skipped, shorter⟩ := skip_number_of_read_number number
      apply leads_of_scalar spaced (Nat.le_of_lt shorter)
      rw [step]
      change (skipNumber _).map _ = _
      rw [skipped]
      rfl
  | @natural _ first start _ _ digit number =>
      obtain ⟨skipped, shorter⟩ := skip_number_of_read_number number
      apply leads_of_scalar spaced (Nat.le_of_lt_succ shorter)
      have other {char : Char} (plain : isDigit char = false) : first ≠ char :=
        ne_of_is_digit digit plain
      rw [step]
      dsimp only
      rw [if_neg (other rfl), if_neg (other rfl), if_neg (other rfl), if_neg (other rfl),
        if_neg (other rfl), if_neg (other rfl), if_neg (other rfl), if_pos digit, skipped]
      rfl
  | @array depth _ _ _ folded =>
      have passes : PassesValues depth .list opened := fun read => leads_of_read_value read _
      exact leads_of_bracket spaced step (closes_of_fold_items passes folded)
  | @object depth _ _ _ folded =>
      have passes : PassesValues depth .object opened := fun read => leads_of_read_value read _
      exact leads_of_bracket spaced step (closes_of_fold_members passes folded)
termination_by depth

/-- What is read as a value, however deep it is, is passed over to the same place. -/
theorem skip_value_of_read_value {depth : Nat} {chars rest : List Char} {value : Value}
    (read : readValue depth chars = .ok (value, rest)) : skipValue chars = .ok ((), rest) := by
  obtain ⟨later, _, same⟩ := leads_of_read_value read [] (' ' :: chars) (Nat.lt_succ_self _)
  rw [skipValue, same, Skipping.settle, skipSteps]

end ReconChat.Json

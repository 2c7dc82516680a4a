import ReconChat.Text.Blank
import ReconChat.Text.Lowercase

/-!
Lower case and words of ASCII. Of the small letters of ASCII only k is the lower case of another
character than its capital, and only i begins a longer one, so that a word without a k comes of no
other text than itself in capitals and small letters of ASCII. This holds whichever of its two small
forms a sigma is given. Words with a k are left out.
-/

namespace ReconChat.Text

/-- The small letters of ASCII but k, which is also the lower case of the Kelvin sign. -/
def isOwnLetter (char : Char) : Bool := 'a' ≤ char && char ≤ 'z' && char ≠ 'k'

/-- A lower case of a text. A sigma may become a final one anywhere. -/
inductive Lowered : List Char → List Char → Prop where
  | nil : Lowered [] []
  | cons {char : Char} {rest folded : List Char} :
      Lowered rest folded → Lowered (char :: rest) (lowerChar char ++ folded)
  | finalSigma {rest folded : List Char} :
      Lowered rest folded → Lowered ('Σ' :: rest) ('ς' :: folded)

theorem lowered_lower_behind (before chars : List Char) :
    Lowered chars (lowerBehind before chars) := by
  induction chars generalizing before with
  | nil => exact .nil
  | cons char rest induction =>
      rw [lowerBehind]
      split
      · next final =>
          obtain ⟨rfl, _⟩ := final
          exact .finalSigma (induction _)
      · exact .cons (induction _)

theorem lowered_lowercase (text : String) : Lowered text.toList (lowercase text).toList := by
  rw [lowercase, String.toList_ofList]
  exact lowered_lower_behind [] text.toList

theorem runs_behind_ascii :
    ∀ run ∈ capitalRuns.tail,
      0x80 ≤ run.1 ∧ (run = (0x212A, 0x212A, 1, 0x6B) ∨ 0x80 ≤ run.2.2.2) := by
  decide +kernel

theorem find_some_first {Item Given : Type} {find : Item → Option Given} {first : Item}
    {rest : List Item} (nothing : ∀ item ∈ rest, find item = none) :
    (first :: rest).findSome? find = find first := by
  rw [List.findSome?_cons, List.findSome?_eq_none_iff.2 nothing]
  cases find first <;> rfl

theorem lower_code_ascii {code : Nat} (ascii : code < 0x80) :
    lowerCode? code =
      if 0x41 ≤ code ∧ code ≤ 0x5A then some (0x61 + (code - 0x41)) else none := by
  rw [lowerCode?, show capitalRuns = (0x41, 0x5A, 1, 0x61) :: capitalRuns.tail from rfl]
  refine (find_some_first fun run member => if_neg ?_).trans ?_
  · rintro ⟨begins, _⟩
    have above := (runs_behind_ascii run member).1
    omega
  · simp only [Nat.mod_one, and_true]

theorem to_lower_of_no_capital {char : Char} (other : ¬(0x41 ≤ char.toNat ∧ char.toNat ≤ 0x5A)) :
    char.toLower = char := by
  refine dif_neg ?_
  rintro ⟨low, high⟩
  have above : 'A'.toNat ≤ char.toNat := low
  have below : char.toNat ≤ 'Z'.toNat := high
  exact other ⟨above, below⟩

theorem lower_char_ascii {char : Char} (ascii : char.toNat < 0x80) :
    lowerChar char = [char.toLower] := by
  have plain : char ≠ '\u0130' := by
    rintro rfl
    exact absurd ascii (by decide)
  rw [lowerChar, if_neg plain, lower_code_ascii ascii]
  by_cases capital : 0x41 ≤ char.toNat ∧ char.toNat ≤ 0x5A
  · have letters : ∀ index < 26,
        Char.ofNat (0x61 + index) = (Char.ofNat (0x41 + index)).toLower := by
      decide
    have letter := letters (char.toNat - 0x41) (by omega)
    rw [Nat.add_sub_cancel' capital.1, Char.ofNat_toNat] at letter
    rw [if_pos capital, ← letter]
  · rw [if_neg capital, to_lower_of_no_capital capital]

theorem ascii_of_own_letter {char : Char} (letter : isOwnLetter char = true) :
    char.toNat < 0x80 := by
  simp only [isOwnLetter, Bool.and_eq_true, decide_eq_true_eq] at letter
  have below : char.toNat ≤ 'z'.toNat := letter.1.2
  exact Nat.lt_of_le_of_lt below (by decide)

theorem not_own_letter_above {char : Char} (above : 0x80 ≤ char.toNat) :
    isOwnLetter char = false := by
  rw [Bool.eq_false_iff]
  intro letter
  exact Nat.not_le_of_lt (ascii_of_own_letter letter) above

/-- A code point that is no scalar value counts as zero, which is no letter either. -/
theorem not_own_letter_of_code {code : Nat} (above : 0x80 ≤ code) :
    isOwnLetter (Char.ofNat code) = false := by
  by_cases valid : code.isValidChar
  · refine not_own_letter_above ?_
    rw [Char.ofNat, dif_pos valid]
    exact above
  · rw [Char.ofNat, dif_neg valid]
    rfl

/-- What has a lower case outside the capitals of ASCII has none among the letters of their own. -/
theorem lower_code_above {code target : Nat} (above : 0x80 ≤ code)
    (found : lowerCode? code = some target) : isOwnLetter (Char.ofNat target) = false := by
  obtain ⟨run, member, given⟩ := List.exists_of_findSome?_eq_some found
  obtain ⟨first, last, step, start⟩ := run
  simp only [Option.ite_none_right_eq_some, Option.some.injEq] at given
  obtain ⟨⟨begins, ends, _⟩, rfl⟩ := given
  rcases List.mem_cons.1 member with ascii | behind
  · cases ascii
    exact absurd (Nat.le_trans above ends) (by decide)
  · rcases (runs_behind_ascii _ behind).2 with kelvin | high
    · cases kelvin
      have only : code = 0x212A := Nat.le_antisymm ends begins
      subst only
      decide
    · exact not_own_letter_of_code (Nat.le_trans high (Nat.le_add_right _ _))

theorem lower_char_above {char : Char} (above : 0x80 ≤ char.toNat) :
    ∃ other ∈ lowerChar char, isOwnLetter other = false := by
  rw [lowerChar]
  split
  · exact ⟨'\u0307', by simp, by decide⟩
  · split
    · next found => exact ⟨_, List.mem_singleton_self _, lower_code_above above found⟩
    · exact ⟨char, List.mem_singleton_self _, not_own_letter_above above⟩

/-- A character has the small letter of ASCII for its lower case, or else neither its lower case nor
itself goes into a word of letters of their own. -/
theorem lower_char_cases (char : Char) :
    lowerChar char = [char.toLower] ∨
      (∃ other ∈ lowerChar char, isOwnLetter other = false) ∧ isOwnLetter char.toLower = false := by
  by_cases ascii : char.toNat < 0x80
  · exact .inl (lower_char_ascii ascii)
  · have above : 0x80 ≤ char.toNat := Nat.le_of_not_lt ascii
    refine .inr ⟨lower_char_above above, ?_⟩
    rw [to_lower_of_no_capital (by omega)]
    exact not_own_letter_above above

theorem ne_of_foreign {word chars : List Char} {foreign : Char}
    (letters : word.all isOwnLetter = true) (member : foreign ∈ chars)
    (noLetter : isOwnLetter foreign = false) : chars ≠ word := by
  rintro rfl
  rw [List.all_eq_true.1 letters foreign member] at noLetter
  cases noLetter

/-- A text has a word of letters of their own for a lower case exactly if it is this word in
capitals and small letters of ASCII. -/
theorem lowered_eq_iff {chars folded word : List Char} (lowered : Lowered chars folded)
    (letters : word.all isOwnLetter = true) : folded = word ↔ chars.map Char.toLower = word := by
  induction lowered generalizing word with
  | nil => exact Iff.rfl
  | @cons char rest folded _ induction =>
      rcases lower_char_cases char with plain | ⟨⟨other, inside, noLetter⟩, foreign⟩
      · rw [plain, List.singleton_append, List.map_cons]
        cases word with
        | nil => simp
        | cons first word =>
            rw [List.all_cons, Bool.and_eq_true] at letters
            rw [List.cons.injEq, List.cons.injEq, induction letters.2]
      · have left := ne_of_foreign letters (List.mem_append_left folded inside) noLetter
        have right : (char :: rest).map Char.toLower ≠ word :=
          ne_of_foreign letters List.mem_cons_self foreign
        exact iff_of_false left right
  | @finalSigma rest folded _ _ =>
      have left : 'ς' :: folded ≠ word := ne_of_foreign letters List.mem_cons_self (by decide)
      have right : ('Σ' :: rest).map Char.toLower ≠ word :=
        ne_of_foreign letters List.mem_cons_self (by decide)
      exact iff_of_false left right

theorem lowered_mem_iff {text : String} {folded : List Char} (lowered : Lowered text.toList folded)
    {words : List String} (letters : ∀ word ∈ words, word.toList.all isOwnLetter = true) :
    String.ofList folded ∈ words ↔ lowerAscii text ∈ words := by
  have same (word : String) (member : word ∈ words) :
      String.ofList folded = word ↔ lowerAscii text = word := by
    rw [← String.toList_inj, ← String.toList_inj, lowerAscii, String.toList_ofList,
      String.toList_ofList]
    exact lowered_eq_iff lowered (letters word member)
  constructor
  · intro member
    exact (same _ member).1 rfl ▸ member
  · intro member
    exact (same _ member).2 rfl ▸ member

end ReconChat.Text

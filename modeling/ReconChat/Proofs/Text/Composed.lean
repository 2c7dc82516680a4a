import ReconChat.Text.Composed

/-!
Composing a text leaves the character at its end alone if that is below every mark and every
character with a decomposition. Nothing is said here about the other characters.
-/

namespace ReconChat.Text

variable {last : Char}

theorem combining_class_low (low : last.toNat < 0xC0) : combiningClass last = 0 := by
  rw [combiningClass, if_pos (by omega)]

theorem decomposition_low (low : last.toNat < 0xC0) :
    (decomposition last.toNat).map Char.ofNat = [last] := by
  rw [decomposition, if_pos low, List.map_singleton, Char.ofNat_toNat]

theorem composite_low (low : last.toNat < 0xC0) (base : Char) (between : List Char) :
    compositeAcross? base between last = none := by
  have alone : composite? base.toNat last.toNat = none := by
    rw [composite?, if_pos (by omega)]
  rw [compositeAcross?, alone]
  split <;> rfl

theorem insert_mark_last (low : last.toNat < 0xC0) (mark : Char) {chars : List Char}
    (ends : chars.getLast? = some last) : (insertMark mark chars).getLast? = some last := by
  induction chars with
  | nil => cases ends
  | cons next rest induction =>
      rw [insertMark]
      split
      · next marks =>
          cases rest with
          | nil =>
              have same : next = last := Option.some.inj ends
              rw [same, combining_class_low low] at marks
              exact absurd rfl marks.1
          | cons second rest =>
              rw [List.getLast?_cons_cons] at ends
              rw [List.getLast?_cons, induction ends]
              rfl
      · rw [List.getLast?_cons_cons]
        exact ends

theorem order_marks_last (low : last.toNat < 0xC0) (chars : List Char) :
    (orderMarks (chars ++ [last])).getLast? = some last := by
  induction chars with
  | nil =>
      rw [List.nil_append, orderMarks, List.foldr_cons, List.foldr_nil,
        if_pos (combining_class_low low)]
      rfl
  | cons char chars induction =>
      rw [List.cons_append, orderMarks, List.foldr_cons, ← orderMarks]
      split
      · rw [List.getLast?_cons, induction]
        rfl
      · exact insert_mark_last low char induction

theorem compose_after_last (low : last.toNat < 0xC0) (base : Char) (between chars : List Char) :
    (composeAfter base between (chars ++ [last])).getLast? = some last := by
  induction chars generalizing base between with
  | nil =>
      rw [List.nil_append, composeAfter, composite_low low base between]
      dsimp only
      rw [if_pos (combining_class_low low), composeAfter, List.getLast?_append]
      rfl
  | cons char chars induction =>
      rw [List.cons_append, composeAfter]
      split
      · exact induction _ _
      · split
        · rw [List.getLast?_append, induction]
          rfl
        · exact induction _ _

theorem compose_marked_last (low : last.toNat < 0xC0) (chars : List Char) :
    (composeMarked (chars ++ [last])).getLast? = some last := by
  induction chars with
  | nil =>
      rw [List.nil_append, composeMarked, if_pos (combining_class_low low), composeAfter]
      rfl
  | cons char chars induction =>
      rw [List.cons_append, composeMarked]
      split
      · exact compose_after_last low char [] chars
      · rw [List.getLast?_cons, induction]
        rfl

theorem composed_last (low : last.toNat < 0xC0) (chars : List Char) :
    (composed (chars ++ [last])).getLast? = some last := by
  rw [composed, decomposed, List.flatMap_append, List.flatMap_singleton, decomposition_low low]
  obtain ⟨front, ordered⟩ := List.getLast?_eq_some_iff.1 (order_marks_last low
    (chars.flatMap fun char => (decomposition char.toNat).map Char.ofNat))
  rw [ordered]
  exact compose_marked_last low front

end ReconChat.Text

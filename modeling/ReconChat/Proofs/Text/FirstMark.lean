import Mathlib.Data.List.TakeWhile

/-!
A text that is read up to a mark: without the mark it is read whole, and with it no further than to
its first place.
-/

namespace ReconChat.Text

variable {mark : Char} {chars front after : List Char}

theorem ne_of_absent (absent : mark ∉ chars) : ∀ char ∈ chars, decide (char ≠ mark) = true := by
  intro char member
  rw [decide_eq_true_eq]
  rintro rfl
  exact absent member

theorem take_while_absent (absent : mark ∉ chars) : chars.takeWhile (· ≠ mark) = chars :=
  List.takeWhile_eq_self_iff.2 (ne_of_absent absent)

theorem drop_while_absent (absent : mark ∉ chars) : chars.dropWhile (· ≠ mark) = [] :=
  List.dropWhile_eq_nil_iff.2 (ne_of_absent absent)

theorem take_while_before (absent : mark ∉ front) :
    (front ++ mark :: after).takeWhile (· ≠ mark) = front := by
  rw [List.takeWhile_append_of_pos (ne_of_absent absent)]
  simp

theorem drop_while_before (absent : mark ∉ front) :
    (front ++ mark :: after).dropWhile (· ≠ mark) = mark :: after := by
  rw [List.dropWhile_append_of_pos (ne_of_absent absent)]
  simp

end ReconChat.Text

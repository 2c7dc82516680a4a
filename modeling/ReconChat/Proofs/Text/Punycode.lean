import ReconChat.Text.Punycode

/-!
Punycode and characters that are no digits of it. ASCII in a text is ASCII in its code, and a code
that ends in a character that is neither a digit nor the delimiter stands for nothing.
-/

namespace ReconChat.Text.Punycode

theorem read_insertions_last {last : Char} (noDigit : digitValue? last = none)
    (position : Position) (text : List Char) (place weight value : Nat) (chars : List Char) :
    readInsertions position text place weight value (chars ++ [last]) = none := by
  induction chars generalizing position text place weight value with
  | nil => rw [List.nil_append, readInsertions, noDigit]
  | cons char chars induction =>
      rw [List.cons_append, readInsertions]
      split
      · rfl
      · dsimp only
        split
        · exact induction _ _ _ _ _
        · split
          · exact induction _ _ _ _ _
          · rfl

theorem decode_last {last : Char} (noDigit : digitValue? last = none) (noDelimiter : last ≠ '-')
    (chars : List Char) : decode (chars ++ [last]) = none := by
  have digits : ((chars ++ [last]).reverse.takeWhile (· != '-')).reverse =
      (chars.reverse.takeWhile (· != '-')).reverse ++ [last] := by
    rw [List.reverse_append, List.reverse_singleton, List.singleton_append,
      List.takeWhile_cons_of_pos (by simpa using noDelimiter), List.reverse_cons]
  rw [decode, digits]
  split
  · exact read_insertions_last noDigit _ _ _ _ _ _
  · split
    · exact read_insertions_last noDigit _ _ _ _ _ _
    · rfl

theorem mem_encode {char : Char} {chars : List Char} (ascii : isAscii char = true)
    (member : char ∈ chars) : char ∈ encode chars := by
  have plain : char ∈ chars.filter isAscii := List.mem_filter.2 ⟨member, ascii⟩
  have nonempty : (chars.filter isAscii).isEmpty = false := by
    rw [List.isEmpty_eq_false_iff]
    exact List.ne_nil_of_mem plain
  rw [encode]
  simp only [nonempty]
  exact List.mem_append_left _ (List.mem_append_left _ plain)

end ReconChat.Text.Punycode

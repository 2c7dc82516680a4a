import ReconChat.Proofs.Json.Numeral
import ReconChat.Proofs.Json.Scalars

/-!
Natural numbers among the numbers of a document. A value is read as an integer without a sign
exactly if its text is the decimal of a number of 64 bits: what has a fraction, an exponent or more
digits than fit is read as a binary64, and what has a sign in front as a number below zero or a
binary64. Which binary64 that is, is not said here.
-/

namespace ReconChat.Json

section Real

variable {negative : Bool} {significand : Nat} {exponent : Int} {chars rest : List Char}
  {number : Number}

theorem finish_real_real
    (read : finishReal negative significand exponent chars = .ok (number, rest)) :
    ∃ value, number = .real value := by
  rw [finishReal] at read
  split at read
  · next found =>
      cases read
      rw [realNumber] at found
      obtain ⟨_, _, same⟩ := Option.map_eq_some_iff.1 found
      exact ⟨_, same.symm⟩
  · cases read

theorem exponent_digits_real {up : Bool} {power : Nat}
    (read : exponentDigits negative significand exponent up chars power = .ok (number, rest)) :
    ∃ value, number = .real value := by
  induction chars generalizing power with
  | nil =>
      rw [exponentDigits] at read
      exact finish_real_real read
  | cons char chars induction =>
      rw [exponentDigits] at read
      split at read
      · dsimp only at read
        split at read
        · exact induction read
        split at read
        · cases read
        · cases read
          exact ⟨_, rfl⟩
      · exact finish_real_real read

theorem exponent_part_real
    (read : exponentPart negative significand exponent chars = .ok (number, rest)) :
    ∃ value, number = .real value := by
  rw [exponentPart.eq_def] at read
  dsimp only at read
  split at read
  · cases read
  · split at read
    · exact exponent_digits_real read
    · cases read

theorem fraction_part_real
    (read : fractionPart negative significand exponent chars = .ok (number, rest)) :
    ∃ value, number = .real value := by
  rw [fractionPart] at read
  dsimp only at read
  split at read
  · split at read <;> cases read
  · rw [maybeExponent.eq_def] at read
    split at read
    · exact exponent_part_real read
    · exact exponent_part_real read
    · exact finish_real_real read

theorem after_integer_integer {scale : Nat} {value : Int}
    (read : afterInteger negative significand scale chars = .ok (.integer value, rest)) :
    scale = 0 ∧ rest = chars ∧ integerNumber negative significand = .integer value := by
  have notReal : ¬∃ other, Number.integer value = .real other := nofun
  rw [afterInteger.eq_def] at read
  split at read
  · exact absurd (fraction_part_real read) notReal
  · exact absurd (exponent_part_real read) notReal
  · exact absurd (exponent_part_real read) notReal
  · split at read
    · next fits =>
        obtain ⟨same, ends⟩ := Prod.mk.inj (Except.ok.inj read)
        exact ⟨fits, ends.symm, same⟩
    · exact absurd (finish_real_real read) notReal

end Real

theorem gather_digits_value (chars : List Char) {significand : Nat}
    (small : significand < significandBound) (added : Nat) :
    ∃ digits, chars = digits ++ (gatherDigits chars significand added).2.2 ∧
      digits.all isDigit = true ∧
      (gatherDigits chars significand added).1 = Nat.ofDigitChars 10 digits significand ∧
      (gatherDigits chars significand added).1 < significandBound := by
  induction chars generalizing significand added with
  | nil => exact ⟨[], rfl, rfl, rfl, small⟩
  | cons char chars induction =>
      rw [gatherDigits]
      split
      · next digit value =>
          dsimp only
          split
          · next fits =>
              obtain ⟨digits, whole, all, same, bounded⟩ := induction fits (added + 1)
              have digit_char := is_digit_of_digit_value value
              refine ⟨char :: digits, congrArg (char :: ·) whole, ?_, ?_, bounded⟩
              · rw [List.all_cons, digit_char, all]
                rfl
              · have amount : digit = char.toNat - 48 :=
                  Option.some.inj (value.symm.trans (digit_value_of_is_digit digit_char))
                rw [same, Nat.ofDigitChars_cons, Nat.mul_comm, amount]
                rfl
          · exact ⟨[], rfl, rfl, rfl, small⟩
      · exact ⟨[], rfl, rfl, rfl, small⟩

theorem head_of_count_digits {chars : List Char} (nothing : (countDigits chars 0).1 = 0) :
    chars.head?.all (!isDigit ·) = true := by
  cases chars with
  | nil => rfl
  | cons char chars =>
      rw [count_digits_eq, Nat.zero_add] at nothing
      by_cases digit : isDigit char = true
      · rw [List.takeWhile_cons_of_pos digit] at nothing
        cases nothing
      · simpa using digit

theorem integer_number_of_nat {negative : Bool} {magnitude number : Nat}
    (same : integerNumber negative magnitude = .integer (.ofNat number)) :
    negative = false ∧ magnitude = number := by
  cases negative with
  | true =>
      rw [integerNumber, if_pos rfl] at same
      split at same
      · next bounds =>
          have value := Number.integer.inj same
          have positive := bounds.1
          simp only [Int.ofNat_eq_natCast] at value
          omega
      · cases same
  | false =>
      have value := Number.integer.inj same
      exact ⟨rfl, Int.ofNat.inj value⟩

section Natural

variable {negative : Bool} {number : Nat} {rest : List Char}

theorem digit_of_read_number {first : Char} {start : List Char} {other : Number}
    (read : readNumber negative (first :: start) = .ok (other, rest)) : isDigit first = true := by
  rw [readNumber.eq_def] at read
  split at read
  · next empty => cases empty
  · next same =>
      cases same
      rfl
  · next same =>
      cases same
      split at read
      · assumption
      · cases read

/-- Behind a first digit that is no zero an integer is all the digits there are. -/
theorem chars_of_read_nonzero {first : Char} {start : List Char} (notZero : first ≠ '0')
    (read : readNumber negative (first :: start) = .ok (.integer (.ofNat number), rest)) :
    negative = false ∧ first :: start = Nat.toDigits 10 number ++ rest ∧
      number < significandBound := by
  have digit := digit_of_read_number read
  have after := read_nonzero notZero read
  obtain ⟨digits, whole, all, value, bounded⟩ :=
    gather_digits_value (first :: start) (show 0 < significandBound by decide) 0
  generalize gatherDigits (first :: start) 0 0 = gathered at after whole value bounded
  obtain ⟨significand, _, remaining⟩ := gathered
  obtain ⟨fits, behind, same⟩ := after_integer_integer after
  obtain ⟨unsigned, rfl⟩ := integer_number_of_nat same
  have ends := head_of_count_digits fits
  rw [count_digits_of_ends ends] at behind
  obtain rfl : rest = remaining := behind
  dsimp only at whole value
  cases digits with
  | nil =>
      rw [← whole.trans (List.nil_append _), List.head?_cons, Option.all_some, digit] at ends
      cases ends
  | cons char digits =>
      obtain ⟨rfl, _⟩ := List.cons.inj whole
      rw [List.all_cons, Bool.and_eq_true] at all
      refine ⟨unsigned, ?_, bounded⟩
      rw [value, to_digits_of_numeral all.1 notZero all.2, whole]

theorem chars_of_read_natural {chars : List Char}
    (read : readNumber negative chars = .ok (.integer (.ofNat number), rest)) :
    negative = false ∧ chars = Nat.toDigits 10 number ++ rest ∧ number < significandBound := by
  cases chars with
  | nil => cases read
  | cons first start =>
      by_cases zero : first = '0'
      · subst zero
        obtain ⟨_, rfl, same⟩ := after_integer_integer (read_zero read).2
        obtain ⟨unsigned, rfl⟩ := integer_number_of_nat same
        exact ⟨unsigned, by rw [Nat.toDigits_zero, List.singleton_append], by decide⟩
      · exact chars_of_read_nonzero zero read

theorem chars_of_natural {depth : Nat} {chars : List Char}
    (reading : Reading depth chars (.number (.integer (.ofNat number))) rest) :
    chars = Nat.toDigits 10 number ++ rest ∧ number < significandBound := by
  cases reading with
  | negative read =>
      obtain ⟨signed, _⟩ := chars_of_read_natural read
      cases signed
  | natural _ read =>
      obtain ⟨_, same⟩ := chars_of_read_natural read
      exact same

theorem number_of_digit {depth : Nat} {first : Char} {start : List Char} {value : Value}
    (digit : isDigit first = true) (reading : Reading depth (first :: start) value rest) :
    ∃ other, value = .number other ∧ readNumber false (first :: start) = .ok (other, rest) := by
  cases reading with
  | natural _ read => exact ⟨_, rfl, read⟩
  | _ => exact absurd digit (by decide)

theorem natural_of_chars {depth : Nat} {value : Value} (fits : number < significandBound)
    (reading : Reading depth (Nat.toDigits 10 number ++ rest) value rest) :
    value = .number (.integer (.ofNat number)) := by
  have denotes : denoted (Nat.toDigits 10 number) = number := Nat.ofDigitChars_ten_toDigits
  obtain ⟨first, others, digits, digit⟩ := to_digits_begins number
  have all := digits_of_number number
  rw [digits] at reading denotes all
  obtain ⟨other, rfl, read⟩ := number_of_digit digit reading
  obtain ⟨rfl, _⟩ := integer_of_read_number (List.cons_ne_nil _ _) all (denotes.symm ▸ fits) read
  rw [denotes]
  rfl

end Natural

end ReconChat.Json

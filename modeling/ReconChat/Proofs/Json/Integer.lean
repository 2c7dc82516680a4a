import ReconChat.Proofs.Json.Reading

/-!
Integer literals. A numeral that is read to its end and consists of digits, perhaps with a sign in
front, is the integer that the digits denote, and this integer is written with the same digits.
Literals of more than 64 bits, and minus zero, are not integers and are left out.
-/

namespace ReconChat.Json

def denoted (digits : List Char) : Nat := Nat.ofDigitChars 10 digits 0

theorem is_digit_iff (char : Char) : isDigit char = true ↔ '0' ≤ char ∧ char ≤ '9' := by
  rw [isDigit, digitValue]
  split <;> simp_all

theorem digit_value_of_is_digit {char : Char} (digit : isDigit char = true) :
    digitValue char = some (char.toNat - 48) := by
  rw [digitValue, if_pos ((is_digit_iff char).1 digit)]

theorem digit_bounds {char : Char} (digit : isDigit char = true) :
    48 ≤ char.toNat ∧ char.toNat ≤ 57 :=
  (is_digit_iff char).1 digit

theorem to_digits_digit {char : Char} (digit : isDigit char = true) :
    Nat.toDigits 10 (char.toNat - 48) = [char] := by
  have bounds := digit_bounds digit
  have same : (char.toNat - 48).digitChar = char := by
    apply Char.toNat_inj.1
    rw [Nat.toNat_digitChar_of_lt_ten (by omega)]
    omega
  rw [Nat.toDigits_of_lt_base (by omega), same]

theorem to_digits_append {digits : List Char} (all : digits.all isDigit = true) {number : Nat}
    (positive : 0 < number) :
    Nat.toDigits 10 (Nat.ofDigitChars 10 digits number) = Nat.toDigits 10 number ++ digits := by
  induction digits generalizing number with
  | nil => simp
  | cons char digits induction =>
      rw [List.all_cons, Bool.and_eq_true] at all
      have bounds := digit_bounds all.1
      have step : Nat.toDigits 10 (10 * number + (char.toNat - 48)) =
          Nat.toDigits 10 number ++ [char] := by
        rw [← Nat.toDigits_append_toDigits (by decide) positive (by omega), to_digits_digit all.1]
      have later := induction all.2 (show 0 < 10 * number + (char.toNat - 48) by omega)
      rw [step, List.append_assoc, List.singleton_append] at later
      exact (congrArg (Nat.toDigits 10) Nat.ofDigitChars_cons).trans later

theorem to_digits_of_numeral {first : Char} {digits : List Char} (digit : isDigit first = true)
    (notZero : first ≠ '0') (all : digits.all isDigit = true) :
    Nat.toDigits 10 (Nat.ofDigitChars 10 (first :: digits) 0) = first :: digits := by
  have bounds := digit_bounds digit
  have positive : 0 < first.toNat - 48 := by
    have different : first.toNat ≠ 48 := fun same => notZero (Char.toNat_inj.1 same)
    omega
  have value : Nat.ofDigitChars 10 (first :: digits) 0 =
      Nat.ofDigitChars 10 digits (first.toNat - 48) := by
    rw [Nat.ofDigitChars_cons, Nat.mul_zero, Nat.zero_add]
    rfl
  rw [value, to_digits_append all positive, to_digits_digit digit, List.singleton_append]

theorem le_of_digit_chars (digits : List Char) (number : Nat) :
    number ≤ Nat.ofDigitChars 10 digits number := by
  rw [Nat.ofDigitChars_eq_ofDigitChars_zero]
  have scale : 1 ≤ 10 ^ digits.length := Nat.one_le_pow _ _ (by decide)
  have scaled := Nat.mul_le_mul_right number scale
  omega

theorem gather_digits_append {digits rest : List Char} {significand : Nat}
    (all : digits.all isDigit = true) (ends : rest.head?.all (!isDigit ·) = true)
    (small : Nat.ofDigitChars 10 digits significand < significandBound) (added : Nat) :
    gatherDigits (digits ++ rest) significand added =
      (Nat.ofDigitChars 10 digits significand, added + digits.length, rest) := by
  induction digits generalizing significand added with
  | nil =>
      cases rest with
      | nil => rfl
      | cons char rest =>
          have none : digitValue char = none := by
            simpa [isDigit] using ends
          rw [List.nil_append, gatherDigits, none]
          rfl
  | cons char digits induction =>
      rw [List.all_cons, Bool.and_eq_true] at all
      have longer : Nat.ofDigitChars 10 (char :: digits) significand =
          Nat.ofDigitChars 10 digits (significand * 10 + (char.toNat - 48)) := by
        rw [Nat.ofDigitChars_cons, Nat.mul_comm]
        rfl
      rw [longer] at small ⊢
      have fits : significand * 10 + (char.toNat - 48) < significandBound :=
        Nat.lt_of_le_of_lt (le_of_digit_chars digits _) small
      rw [List.cons_append, gatherDigits, digit_value_of_is_digit all.1]
      dsimp only
      rw [if_pos fits, induction all.2 small]
      simp only [List.length_cons, Prod.mk.injEq, true_and, and_true]
      omega

theorem count_digits_ends (chars : List Char) (counted : Nat) :
    (countDigits chars counted).2.head?.all (!isDigit ·) = true := by
  induction chars generalizing counted with
  | nil => rfl
  | cons char chars induction =>
      rw [countDigits]
      split
      · exact induction _
      · next other => simpa using other

theorem count_digits_of_ends {chars : List Char} (ends : chars.head?.all (!isDigit ·) = true)
    (counted : Nat) : countDigits chars counted = (counted, chars) := by
  cases chars with
  | nil => rfl
  | cons char chars =>
      have other : ¬isDigit char = true := by simpa using ends
      rw [countDigits, if_neg other]

/-- Where nothing but digits is read, no point and no exponent stands behind any of them. -/
theorem after_integer_of_digits {negative : Bool} {significand scale : Nat}
    {digits after rest : List Char} {number : Number} (all : digits.all isDigit = true)
    (front : List Char) (whole : digits ++ rest = front ++ after)
    (read : afterInteger negative significand scale after = .ok (number, rest)) :
    rest = after ∧ (scale = 0 → number = integerNumber negative significand) := by
  rcases after_integer_cases read with ⟨mark, text, rfl, begins, _⟩ | ends
  · rw [← List.cons_append, ← List.append_assoc, List.append_cancel_right_eq] at whole
    rw [whole, List.all_append, List.all_cons, Bool.and_eq_true, Bool.and_eq_true] at all
    simp only [beginsPart, Bool.or_eq_true, decide_eq_true_eq] at begins
    rcases begins with (rfl | rfl) | rfl <;> exact absurd all.2.1 (by decide)
  · exact ends

theorem read_zero {negative : Bool} {rest after : List Char} {number : Number}
    (read : readNumber negative ('0' :: rest) = .ok (number, after)) :
    rest.head?.all (!isDigit ·) = true ∧
      afterInteger negative 0 0 rest = .ok (number, after) := by
  cases rest with
  | nil => exact ⟨rfl, read⟩
  | cons next rest =>
      rw [readNumber] at read
      split at read
      · cases read
      · next other => exact ⟨by simpa using other, read⟩

theorem read_nonzero {negative : Bool} {first : Char} {others after : List Char} {number : Number}
    (notZero : first ≠ '0')
    (read : readNumber negative (first :: others) = .ok (number, after)) :
    let (significand, _, remaining) := gatherDigits (first :: others) 0 0
    let (scale, behind) := countDigits remaining 0
    afterInteger negative significand scale behind = .ok (number, after) := by
  rw [readNumber.eq_def] at read
  split at read
  · next empty => cases empty
  · next same => exact absurd (List.cons.inj same).1 notZero
  · next same =>
      cases same
      split at read
      · exact read
      · cases read

theorem integer_of_read_zero {negative : Bool} {others rest : List Char} {number : Number}
    (all : others.all isDigit = true)
    (read : readNumber negative ('0' :: (others ++ rest)) = .ok (number, rest)) :
    others = [] ∧ number = integerNumber negative 0 := by
  obtain ⟨ends, after⟩ := read_zero read
  have alone : others = [] := by
    cases others with
    | nil => rfl
    | cons next others =>
        rw [List.all_cons, Bool.and_eq_true] at all
        simp [all.1] at ends
  subst alone
  have integer := after_integer_of_digits (show ['0'].all isDigit = true from rfl) ['0'] rfl after
  exact ⟨rfl, integer.2 rfl⟩

theorem integer_of_read_nonzero {negative : Bool} {first : Char} {others rest : List Char}
    {number : Number} (notZero : first ≠ '0') (all : (first :: others).all isDigit = true)
    (small : denoted (first :: others) < significandBound)
    (read : readNumber negative (first :: (others ++ rest)) = .ok (number, rest)) :
    number = integerNumber negative (denoted (first :: others)) := by
  have after := read_nonzero notZero read
  obtain ⟨front, whole, _⟩ := (gather_digits_leaves (first :: (others ++ rest)) 0 0).trans
    (count_digits_leaves (gatherDigits (first :: (others ++ rest)) 0 0).2.2 0)
  have same := (after_integer_of_digits all front whole after).1
  have ends : rest.head?.all (!isDigit ·) = true := by
    rw [same]
    exact count_digits_ends _ 0
  have gathered := gather_digits_append all ends small 0
  rw [List.cons_append] at gathered
  simp only [gathered, count_digits_of_ends ends] at after
  have integer := after_integer_of_digits all (first :: others) rfl after
  exact integer.2 rfl

/-- A numeral of digits that fit is the integer they denote, and is written as it was read. -/
theorem integer_of_read_number {negative : Bool} {digits rest : List Char} {number : Number}
    (nonempty : digits ≠ []) (all : digits.all isDigit = true)
    (small : denoted digits < significandBound)
    (read : readNumber negative (digits ++ rest) = .ok (number, rest)) :
    number = integerNumber negative (denoted digits) ∧
      Nat.toDigits 10 (denoted digits) = digits := by
  cases digits with
  | nil => exact absurd rfl nonempty
  | cons first others =>
      have parts := all
      rw [List.all_cons, Bool.and_eq_true] at parts
      rw [List.cons_append] at read
      by_cases zero : first = '0'
      · subst zero
        obtain ⟨rfl, integer⟩ := integer_of_read_zero parts.2 read
        exact ⟨integer, by decide⟩
      · exact ⟨integer_of_read_nonzero zero all small read,
          to_digits_of_numeral parts.1 zero parts.2⟩

/-- An integer literal of 64 bits, unsigned or signed, other than minus zero. -/
def isIntegerLiteral : List Char → Bool
  | '-' :: digits =>
      digits.all isDigit && 0 < denoted digits && denoted digits ≤ 0x8000000000000000
  | digits => !digits.isEmpty && digits.all isDigit && denoted digits < significandBound

theorem integer_number_chars {negative : Bool} {magnitude : Nat}
    (small : negative = true → 0 < magnitude ∧ magnitude ≤ 0x8000000000000000) :
    (integerNumber negative magnitude).chars =
      (if negative then ['-'] else []) ++ Nat.toDigits 10 magnitude := by
  cases negative with
  | false => rfl
  | true =>
      obtain ⟨positive, bounded⟩ := small rfl
      obtain ⟨less, rfl⟩ := Nat.exists_eq_succ_of_ne_zero (Nat.ne_of_gt positive)
      rw [integerNumber, if_pos rfl, if_pos ⟨positive, bounded⟩]
      rfl

theorem chars_of_integer_literal {depth : Nat} {text rest : List Char} {number : Number}
    (literal : isIntegerLiteral text = true)
    (reading : Reading depth (text ++ rest) (.number number) rest) : number.chars = text := by
  cases text with
  | nil => cases literal
  | cons first others =>
      by_cases sign : first = '-'
      · subst sign
        simp only [isIntegerLiteral, Bool.and_eq_true, decide_eq_true_eq] at literal
        obtain ⟨⟨all, positive⟩, bounded⟩ := literal
        have nonempty : others ≠ [] := by
          rintro rfl
          exact absurd positive (by decide)
        have small : denoted others < significandBound := by
          rw [significandBound]
          omega
        cases reading with
        | negative read =>
            obtain ⟨rfl, written⟩ := integer_of_read_number nonempty all small read
            rw [integer_number_chars fun _ => ⟨positive, bounded⟩, written]
            rfl
        | natural digit _ => exact absurd digit (by decide)
      · have parts : (first :: others).all isDigit = true ∧
            denoted (first :: others) < significandBound := by
          rw [isIntegerLiteral.eq_def] at literal
          split at literal
          · next same => exact absurd (List.cons.inj same).1 sign
          · simpa using literal
        generalize whole : first :: others ++ rest = chars at reading
        cases reading with
        | negative read => exact absurd (List.cons.inj whole).1 sign
        | natural digit read =>
            rw [← whole] at read
            obtain ⟨rfl, written⟩ := integer_of_read_number (by simp) parts.1 parts.2 read
            rw [integer_number_chars (by simp), written]
            rfl

end ReconChat.Json

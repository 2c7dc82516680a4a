import ReconChat.Json.Skip
import ReconChat.Proofs.Json.Balance

/-!
Strings and numbers that are passed over. What is read as one of them is passed over, and what is
left behind it is the same. Numbers are gone through part by part, as both readers do; how large
they are and what surrogates a string has counts for reading only.
-/

namespace ReconChat.Json

/-- The induction is on the reader's own recursion; a pair of surrogates is two escapes. -/
theorem skip_quoted_of_read_quoted {chars done rest : List Char} {text : String}
    (read : readQuoted chars done = .ok (text, rest)) : skipQuoted chars = .ok ((), rest) := by
  fun_induction readQuoted chars done with
  | case2 =>
      cases read
      rw [skipQuoted.eq_def]
      exact if_pos rfl
  | case4 char chars _ notQuote visible notSlash induction =>
      rw [skipQuoted.eq_def]
      simp only [notQuote, visible, notSlash, if_false, if_true, ne_eq, not_false_eq_true]
      exact induction read
  | case11 char _ notQuote visible slash a b c d high first _ _ e f g h chars low second _
      induction =>
      rw [Decidable.not_not.1 slash]
      simp only [skipQuoted, first, second]
      exact induction read
  | case16 char _ notQuote visible slash a b c d chars unit quad _ _ induction =>
      rw [Decidable.not_not.1 slash]
      simp only [skipQuoted, quad]
      exact induction read
  | case18 char _ notQuote visible slash letter chars notUnit meant escape induction =>
      rw [skipQuoted, if_neg notQuote, if_neg visible, if_neg slash, escape]
      · exact induction read
      · exact notUnit
  | _ => cases read

theorem count_digits_eq (chars : List Char) (counted : Nat) :
    countDigits chars counted =
      (counted + (chars.takeWhile isDigit).length, chars.dropWhile isDigit) := by
  induction chars generalizing counted with
  | nil => rfl
  | cons char chars induction =>
      rw [countDigits]
      by_cases digit : isDigit char = true
      · rw [if_pos digit, induction, List.takeWhile_cons_of_pos digit,
          List.dropWhile_cons_of_pos digit, List.length_cons]
        congr 1
        omega
      · rw [if_neg digit, List.takeWhile_cons_of_neg digit, List.dropWhile_cons_of_neg digit]
        rfl

theorem gather_digits_split (chars : List Char) (significand added : Nat) :
    (gatherDigits chars significand added).2.1 +
        ((gatherDigits chars significand added).2.2.takeWhile isDigit).length =
      added + (chars.takeWhile isDigit).length ∧
    (gatherDigits chars significand added).2.2.dropWhile isDigit = chars.dropWhile isDigit := by
  induction chars generalizing significand added with
  | nil => exact ⟨rfl, rfl⟩
  | cons char chars induction =>
      rw [gatherDigits]
      split
      · next digit value =>
          dsimp only
          split
          · have isDigit := is_digit_of_digit_value value
            obtain ⟨count, rest⟩ := induction (significand * 10 + digit) (added + 1)
            rw [count, rest, List.takeWhile_cons_of_pos isDigit,
              List.dropWhile_cons_of_pos isDigit, List.length_cons]
            exact ⟨by omega, rfl⟩
          · exact ⟨rfl, rfl⟩
      · exact ⟨rfl, rfl⟩

theorem exponent_digits_rest {negative up : Bool} {significand : Nat} {exponent : Int}
    {chars rest : List Char} {power : Nat} {number : Number}
    (read : exponentDigits negative significand exponent up chars power = .ok (number, rest)) :
    rest = chars.dropWhile isDigit := by
  induction chars generalizing power with
  | nil =>
      rw [exponentDigits] at read
      exact finish_real_rest read
  | cons char chars induction =>
      rw [exponentDigits] at read
      split at read
      · next value =>
          dsimp only at read
          rw [List.dropWhile_cons_of_pos (is_digit_of_digit_value value)]
          split at read
          · exact induction read
          split at read
          · cases read
          · cases read
            rw [count_digits_eq]
      · next noDigit =>
          have notDigit : ¬isDigit char = true := by
            rw [isDigit, noDigit]
            exact Bool.false_ne_true
          rw [List.dropWhile_cons_of_neg notDigit]
          exact finish_real_rest read

def unsigned (chars : List Char) : List Char :=
  match chars with
  | '+' :: rest => rest
  | '-' :: rest => rest
  | _ => chars

def skipDigits (digits : List Char) : Result Unit :=
  match countDigits digits 0 with
  | (0, _) => failOn .invalidNumber digits
  | (_, rest) => .ok ((), rest)

theorem skip_exponent_eq (chars : List Char) : skipExponent chars = skipDigits (unsigned chars) :=
  rfl

theorem skip_exponent_digits {first : Char} {chars others : List Char}
    (digits : unsigned chars = first :: others) (digit : isDigit first = true) :
    skipExponent chars = .ok ((), others.dropWhile isDigit) := by
  rw [skip_exponent_eq, digits, skipDigits, count_digits_eq, List.takeWhile_cons_of_pos digit,
    List.dropWhile_cons_of_pos digit, Nat.zero_add, List.length_cons]
  rfl

theorem digits_behind_sign (chars : List Char) :
    (match chars with
      | '+' :: rest => (true, rest)
      | '-' :: rest => (false, rest)
      | _ => (true, chars)).2 = unsigned chars := by
  fun_cases unsigned chars
  · rfl
  · rfl
  · split
    · next plus _ => exact absurd rfl (plus _)
    · next minus => exact absurd rfl (minus _)
    · rfl

theorem skip_exponent_of_exponent_part {negative : Bool} {significand : Nat} {exponent : Int}
    {chars rest : List Char} {number : Number}
    (read : exponentPart negative significand exponent chars = .ok (number, rest)) :
    skipExponent chars = .ok ((), rest) := by
  rw [exponentPart.eq_def] at read
  dsimp only at read
  split at read
  · cases read
  · next first others digits =>
      have digits : unsigned chars = first :: others := (digits_behind_sign chars).symm.trans digits
      split at read
      · next value =>
          rw [exponent_digits_rest read]
          exact skip_exponent_digits digits (is_digit_of_digit_value value)
      · cases read

def skipFraction (fraction : List Char) : Result Unit :=
  match countDigits fraction 0 with
  | (0, rest) => failOn .invalidNumber rest
  | (_, 'e' :: rest) => skipExponent rest
  | (_, 'E' :: rest) => skipExponent rest
  | (_, rest) => .ok ((), rest)

def skipAfterInteger (integer : Except Fault (List Char)) : Result Unit :=
  match integer with
  | .error fault => .error fault
  | .ok ('.' :: fraction) => skipFraction fraction
  | .ok ('e' :: rest) => skipExponent rest
  | .ok ('E' :: rest) => skipExponent rest
  | .ok rest => .ok ((), rest)

theorem skip_fraction_of_fraction_part {negative : Bool} {significand : Nat} {exponent : Int}
    {chars rest : List Char} {number : Number}
    (read : fractionPart negative significand exponent chars = .ok (number, rest)) :
    skipFraction chars = .ok ((), rest) := by
  obtain ⟨count, behind⟩ := gather_digits_split chars significand 0
  rw [fractionPart] at read
  simp only [count_digits_eq, Nat.zero_add] at count read
  rw [count, behind] at read
  rw [skipFraction, count_digits_eq, Nat.zero_add]
  cases digits : (chars.takeWhile isDigit).length with
  | zero =>
      rw [digits, if_pos rfl] at read
      split at read <;> cases read
  | succ more =>
      rw [digits, if_neg (Nat.succ_ne_zero more), maybeExponent.eq_def] at read
      split at read
      · next exponent =>
          rw [exponent]
          exact skip_exponent_of_exponent_part read
      · next exponent =>
          rw [exponent]
          exact skip_exponent_of_exponent_part read
      · next notSmall notCapital =>
          rw [finish_real_rest read]
          split
          · next none => cases none
          · next small => exact absurd (Prod.mk.inj small).2 (notSmall _)
          · next capital => exact absurd (Prod.mk.inj capital).2 (notCapital _)
          · next plain =>
              rw [(Prod.mk.inj plain).2]

theorem skip_after_integer_of_after_integer {negative : Bool} {significand scale : Nat}
    {chars rest : List Char} {number : Number}
    (read : afterInteger negative significand scale chars = .ok (number, rest)) :
    skipAfterInteger (.ok chars) = .ok ((), rest) := by
  rw [afterInteger.eq_def] at read
  split at read
  · exact skip_fraction_of_fraction_part read
  · exact skip_exponent_of_exponent_part read
  · exact skip_exponent_of_exponent_part read
  · next notPoint notSmall notCapital =>
      rw [skipAfterInteger]
      · split at read
        · cases read
          rfl
        · rw [finish_real_rest read]
      all_goals assumption

def skipInteger (chars : List Char) : Except Fault (List Char) :=
  match chars with
  | '0' :: next :: rest =>
      if isDigit next then failOn .invalidNumber (next :: rest) else .ok (next :: rest)
  | _ =>
      match countDigits chars 0 with
      | (0, _) => failOn .invalidNumber chars
      | (_, rest) => .ok rest

theorem skip_number_eq (chars : List Char) :
    skipNumber chars = skipAfterInteger (skipInteger chars) := rfl

theorem skip_integer_digits {first : Char} (digit : isDigit first = true) (notZero : first ≠ '0')
    (others : List Char) : skipInteger (first :: others) = .ok (others.dropWhile isDigit) := by
  rw [skipInteger]
  · rw [count_digits_eq, List.takeWhile_cons_of_pos digit, List.dropWhile_cons_of_pos digit,
      Nat.zero_add, List.length_cons]
    rfl
  · intro next rest same
    exact notZero (List.cons.inj same).1

/-- Reading a number begins as passing over one does, with at least one digit. -/
theorem skip_integer_of_read_number {negative : Bool} {chars rest : List Char} {number : Number}
    (read : readNumber negative chars = .ok (number, rest)) :
    ∃ significand scale behind, skipInteger chars = .ok behind ∧ behind.length < chars.length ∧
      afterInteger negative significand scale behind = .ok (number, rest) := by
  rw [readNumber.eq_def] at read
  split at read
  · cases read
  · split at read
    · split at read
      · cases read
      · next noDigit => exact ⟨0, 0, _, if_neg noDigit, Nat.lt_succ_self _, read⟩
    · exact ⟨0, 0, [], rfl, Nat.zero_lt_one, read⟩
  · next first others notZero =>
      split at read
      · next digit =>
          obtain ⟨_, behind⟩ := gather_digits_split (first :: others) 0 0
          simp only [count_digits_eq, behind, List.dropWhile_cons_of_pos digit] at read
          exact ⟨_, _, _, skip_integer_digits digit notZero others,
            Nat.lt_succ_of_le (List.dropWhile_suffix _).length_le, read⟩
      · cases read

theorem skip_number_of_read_number {negative : Bool} {chars rest : List Char} {number : Number}
    (read : readNumber negative chars = .ok (number, rest)) :
    skipNumber chars = .ok ((), rest) ∧ rest.length < chars.length := by
  obtain ⟨_, _, behind, integer, shorter, later⟩ := skip_integer_of_read_number read
  obtain ⟨text, same, _⟩ := after_integer_leaves later
  rw [skip_number_eq, integer]
  refine ⟨skip_after_integer_of_after_integer later, ?_⟩
  rw [same, List.length_append] at shorter
  omega

end ReconChat.Json

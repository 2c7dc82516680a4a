import ReconChat.Proofs.Json.Integer

/-!
Written integers. The digits of an integer of 64 bits are read back as that integer, in front of
whatever is no further part of a numeral. Binary64 numbers are left out, since reading need not give
the nearest one.
-/

namespace ReconChat.Json

/-- Nothing that a numeral could go on with. -/
def StopsNumeral (tail : List Char) : Prop := tail.head?.all (!isNumeralChar ·) = true

theorem not_is_digit_of_stops {tail : List Char} (stops : StopsNumeral tail) :
    tail.head?.all (!isDigit ·) = true := by
  cases tail with
  | nil => rfl
  | cons char tail =>
      simp only [StopsNumeral, isNumeralChar, List.head?_cons, Option.all_some, Bool.not_or,
        Bool.and_eq_true] at stops ⊢
      exact stops.1.1.1.1.1

theorem after_integer_stops {tail : List Char} (stops : StopsNumeral tail) (negative : Bool)
    (significand : Nat) :
    afterInteger negative significand 0 tail = .ok (integerNumber negative significand, tail) := by
  rw [afterInteger.eq_def]
  split
  · cases stops
  · cases stops
  · cases stops
  · rw [if_pos rfl]

theorem digits_of_number (number : Nat) : (Nat.toDigits 10 number).all isDigit = true := by
  refine List.all_eq_true.2 fun char member => ?_
  have digit := Nat.isDigit_of_mem_toDigits (by decide) (by decide) member
  simp only [Char.isDigit, Bool.and_eq_true, decide_eq_true_eq] at digit
  exact (is_digit_iff char).2 digit

theorem head_to_digits {number : Nat} (positive : 0 < number) :
    (Nat.toDigits 10 number).head? ≠ some '0' := by
  induction number using Nat.strongRecOn with
  | ind number induction =>
      rw [Nat.toDigits_eq_if (by decide)]
      split
      · next small =>
          intro zero
          have value := congrArg Char.toNat (Option.some.inj zero)
          rw [Nat.toNat_digitChar_of_lt_ten small, show '0'.toNat = 48 from rfl] at value
          omega
      · have earlier := induction (number / 10) (by omega) (by omega)
        obtain ⟨first, others, digits⟩ :=
          List.ne_nil_iff_exists_cons.1 (Nat.toDigits_ne_nil (n := number / 10) (b := 10))
        rw [digits] at earlier ⊢
        exact earlier

theorem read_number_of_digits {digits tail : List Char}
    (nonempty : digits ≠ []) (notZero : digits.head? ≠ some '0') (all : digits.all isDigit = true)
    (small : denoted digits < significandBound) (stops : StopsNumeral tail)
    (negative : Bool) :
    readNumber negative (digits ++ tail) = .ok (integerNumber negative (denoted digits), tail) := by
  have ends := not_is_digit_of_stops stops
  have gathered := gather_digits_append all ends small 0
  cases digits with
  | nil => exact absurd rfl nonempty
  | cons first others =>
      rw [List.all_cons, Bool.and_eq_true] at all
      rw [List.cons_append] at gathered ⊢
      rw [readNumber.eq_def]
      split
      · next empty => cases empty
      · next same => exact absurd (congrArg some (List.cons.inj same).1) notZero
      · next same =>
          cases same
          rw [if_pos all.1]
          simp only [gathered, count_digits_of_ends ends]
          exact after_integer_stops stops negative _

theorem read_number_written {magnitude : Nat} (small : magnitude < significandBound)
    {tail : List Char} (stops : StopsNumeral tail) (negative : Bool) :
    readNumber negative (Nat.toDigits 10 magnitude ++ tail) =
      .ok (integerNumber negative magnitude, tail) := by
  rcases Nat.eq_zero_or_pos magnitude with rfl | positive
  · have ends := not_is_digit_of_stops stops
    have after := after_integer_stops stops negative 0
    rw [Nat.toDigits_zero, List.singleton_append]
    cases tail with
    | nil => exact after
    | cons next tail =>
        have other : ¬isDigit next = true := by simpa using ends
        rw [readNumber, if_neg other, after]
  · have value : denoted (Nat.toDigits 10 magnitude) = magnitude := Nat.ofDigitChars_ten_toDigits
    have read := read_number_of_digits Nat.toDigits_ne_nil (head_to_digits positive)
      (digits_of_number magnitude) (by rwa [value]) stops negative
    rwa [value] at read


/-- An integer of 64 bits, signed or unsigned. -/
def Number.IsExact : Number → Prop
  | .integer value => -0x8000000000000000 ≤ value ∧ value < significandBound
  | .real _ => False

theorem to_digits_begins (number : Nat) :
    ∃ first others, Nat.toDigits 10 number = first :: others ∧ isDigit first = true := by
  obtain ⟨first, others, digits⟩ :=
    List.ne_nil_iff_exists_cons.1 (Nat.toDigits_ne_nil (n := number) (b := 10))
  have all := digits_of_number number
  rw [digits, List.all_cons, Bool.and_eq_true] at all
  exact ⟨first, others, digits, all.1⟩

theorem reading_of_number {number : Number} (exact : number.IsExact) {tail : List Char}
    (stops : StopsNumeral tail) (depth : Nat) :
    Reading depth (number.chars ++ tail) (.number number) tail := by
  cases number with
  | real value => cases exact
  | integer value =>
      cases value with
      | ofNat value =>
          have read := read_number_written (Int.ofNat_lt.1 exact.2) stops false
          obtain ⟨first, others, digits, digit⟩ := to_digits_begins value
          rw [Number.chars]
          rw [digits] at read ⊢
          exact .natural digit read
      | negSucc value =>
          have least := exact.1
          have bounded : value + 1 ≤ 0x8000000000000000 := by omega
          have small : value + 1 < significandBound := by
            rw [significandBound]
            omega
          have read := read_number_written small stops true
          rw [integerNumber, if_pos rfl, if_pos ⟨Nat.succ_pos value, bounded⟩] at read
          exact .negative read

end ReconChat.Json

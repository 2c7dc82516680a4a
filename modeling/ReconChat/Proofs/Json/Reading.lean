import ReconChat.Json.Reader

/-!
What readers take from the front of a text. A reader that succeeds leaves a suffix of its text;
the characters in front of it are those of a numeral for numbers, the letters of a word, and
otherwise as the reader of the value wants them. Nothing is said here about what the readers
make of the characters.
-/

namespace ReconChat.Json

def Leaves (kind : Char → Bool) (chars rest : List Char) : Prop :=
  ∃ text, chars = text ++ rest ∧ text.all kind

namespace Leaves

variable {kind : Char → Bool}

theorem refl (chars : List Char) : Leaves kind chars chars := ⟨[], rfl, rfl⟩

theorem cons {char : Char} {chars rest : List Char} (first : kind char = true)
    (later : Leaves kind chars rest) : Leaves kind (char :: chars) rest := by
  obtain ⟨text, rfl, all⟩ := later
  exact ⟨char :: text, rfl, by rw [List.all_cons, first, all]; rfl⟩

theorem trans {chars middle rest : List Char} (first : Leaves kind chars middle)
    (later : Leaves kind middle rest) : Leaves kind chars rest := by
  obtain ⟨front, rfl, frontAll⟩ := first
  obtain ⟨back, rfl, backAll⟩ := later
  exact ⟨front ++ back, by simp, by rw [List.all_append, frontAll, backAll]; rfl⟩

theorem weaken {other : Char → Bool} (implied : ∀ char, kind char = true → other char = true)
    {chars rest : List Char} (leaves : Leaves kind chars rest) : Leaves other chars rest := by
  obtain ⟨text, rfl, all⟩ := leaves
  exact ⟨text, rfl, List.all_eq_true.2 fun char member =>
    implied char (List.all_eq_true.1 all char member)⟩

end Leaves

theorem drop_space_leaves (chars : List Char) : Leaves isSpace chars (dropSpace chars) := by
  induction chars with
  | nil => exact .refl []
  | cons char chars induction =>
      rw [dropSpace]
      split
      · next space => exact .cons space induction
      · exact .refl _

theorem drop_space_drop_space (chars : List Char) :
    dropSpace (dropSpace chars) = dropSpace chars := by
  induction chars with
  | nil => rfl
  | cons char chars induction =>
      rw [dropSpace]
      split
      · exact induction
      · next visible => rw [dropSpace, if_neg visible]

def isNumeralChar (char : Char) : Bool :=
  isDigit char || char = '.' || char = 'e' || char = 'E' || char = '+' || char = '-'

theorem is_numeral_char_of_is_digit (char : Char) (digit : isDigit char = true) :
    isNumeralChar char = true := by
  simp [isNumeralChar, digit]

theorem is_digit_of_digit_value {char : Char} {digit : Nat}
    (value : digitValue char = some digit) : isDigit char = true := by
  simp [isDigit, value]

theorem count_digits_leaves (chars : List Char) (counted : Nat) :
    Leaves isDigit chars (countDigits chars counted).2 := by
  induction chars generalizing counted with
  | nil => exact .refl []
  | cons char chars induction =>
      rw [countDigits]
      split
      · next digit => exact .cons digit (induction _)
      · exact .refl _

theorem gather_digits_leaves (chars : List Char) (significand added : Nat) :
    Leaves isDigit chars (gatherDigits chars significand added).2.2 := by
  induction chars generalizing significand added with
  | nil => exact .refl []
  | cons char chars induction =>
      rw [gatherDigits]
      split
      · next value =>
          dsimp only
          split
          · exact .cons (is_digit_of_digit_value value) (induction _ _)
          · exact .refl _
      · exact .refl _

theorem finish_real_rest {negative : Bool} {significand : Nat} {exponent : Int}
    {chars rest : List Char} {number : Number}
    (read : finishReal negative significand exponent chars = .ok (number, rest)) :
    rest = chars := by
  rw [finishReal] at read
  split at read
  · cases read
    rfl
  · cases read

theorem exponent_digits_leaves {negative up : Bool} {significand : Nat} {exponent : Int}
    {chars rest : List Char} {power : Nat} {number : Number}
    (read : exponentDigits negative significand exponent up chars power = .ok (number, rest)) :
    Leaves isDigit chars rest := by
  induction chars generalizing power with
  | nil =>
      rw [exponentDigits] at read
      rw [finish_real_rest read]
      exact .refl []
  | cons char chars induction =>
      rw [exponentDigits] at read
      split at read
      · next value =>
          dsimp only at read
          refine .cons (is_digit_of_digit_value value) ?_
          split at read
          · exact induction read
          split at read
          · cases read
          · cases read
            exact count_digits_leaves chars 0
      · rw [finish_real_rest read]
        exact .refl _

theorem exponent_part_leaves {negative : Bool} {significand : Nat} {exponent : Int}
    {chars rest : List Char} {number : Number}
    (read : exponentPart negative significand exponent chars = .ok (number, rest)) :
    Leaves isNumeralChar chars rest := by
  rw [exponentPart.eq_def] at read
  dsimp only at read
  split at read
  · cases read
  · next first others digits =>
      split at read
      · next value =>
          have later : Leaves isNumeralChar (first :: others) rest :=
            (Leaves.cons (is_digit_of_digit_value value) (exponent_digits_leaves read)).weaken
              is_numeral_char_of_is_digit
          rw [← digits] at later
          -- A sign may stand in front of the digits.
          split at later
          · exact .cons rfl later
          · exact .cons rfl later
          · exact later
      · cases read

def beginsPart (char : Char) : Bool := char = '.' || char = 'e' || char = 'E'

def LeavesPart (chars rest : List Char) : Prop :=
  ∃ mark text, chars = mark :: (text ++ rest) ∧ beginsPart mark = true ∧ text.all isNumeralChar

theorem leaves_part_of_leaves {mark : Char} {chars rest : List Char}
    (begins : beginsPart mark = true) (later : Leaves isNumeralChar chars rest) :
    LeavesPart (mark :: chars) rest := by
  obtain ⟨text, rfl, all⟩ := later
  exact ⟨mark, text, rfl, begins, all⟩

theorem maybe_exponent_leaves {negative : Bool} {significand : Nat} {exponent : Int}
    {chars rest : List Char} {number : Number}
    (read : maybeExponent negative significand exponent chars = .ok (number, rest)) :
    Leaves isNumeralChar chars rest := by
  rw [maybeExponent.eq_def] at read
  split at read
  · exact .cons rfl (exponent_part_leaves read)
  · exact .cons rfl (exponent_part_leaves read)
  · rw [finish_real_rest read]
    exact .refl _

theorem fraction_part_leaves {negative : Bool} {significand : Nat} {exponent : Int}
    {chars rest : List Char} {number : Number}
    (read : fractionPart negative significand exponent chars = .ok (number, rest)) :
    Leaves isNumeralChar chars rest := by
  rw [fractionPart] at read
  dsimp only at read
  have digits := (gather_digits_leaves chars significand 0).trans
    (count_digits_leaves (gatherDigits chars significand 0).2.2 0)
  refine (digits.weaken is_numeral_char_of_is_digit).trans ?_
  split at read
  · split at read <;> cases read
  · exact maybe_exponent_leaves read

/-- Behind the integer digits a number goes on with a part, or ends as the digits say. -/
theorem after_integer_cases {negative : Bool} {significand scale : Nat}
    {chars rest : List Char} {number : Number}
    (read : afterInteger negative significand scale chars = .ok (number, rest)) :
    LeavesPart chars rest ∨
      rest = chars ∧ (scale = 0 → number = integerNumber negative significand) := by
  rw [afterInteger.eq_def] at read
  split at read
  · exact .inl (leaves_part_of_leaves rfl (fraction_part_leaves read))
  · exact .inl (leaves_part_of_leaves rfl (exponent_part_leaves read))
  · exact .inl (leaves_part_of_leaves rfl (exponent_part_leaves read))
  · split at read
    · cases read
      exact .inr ⟨rfl, fun _ => rfl⟩
    · next scaled =>
        exact .inr ⟨finish_real_rest read, fun zero => absurd zero scaled⟩

theorem after_integer_leaves {negative : Bool} {significand scale : Nat}
    {chars rest : List Char} {number : Number}
    (read : afterInteger negative significand scale chars = .ok (number, rest)) :
    Leaves isNumeralChar chars rest := by
  rcases after_integer_cases read with ⟨mark, text, rfl, begins, all⟩ | ⟨rfl, _⟩
  · refine .cons ?_ ⟨text, rfl, all⟩
    simp only [beginsPart, Bool.or_eq_true, decide_eq_true_eq] at begins
    rcases begins with (rfl | rfl) | rfl <;> rfl
  · exact .refl _

theorem read_number_leaves {negative : Bool} {chars rest : List Char} {number : Number}
    (read : readNumber negative chars = .ok (number, rest)) :
    Leaves isNumeralChar chars rest := by
  rw [readNumber.eq_def] at read
  split at read
  · cases read
  · split at read
    · split at read
      · cases read
      · exact .cons rfl (after_integer_leaves read)
    · exact .cons rfl (after_integer_leaves read)
  · next char chars _ =>
    split at read
    · have digits := (gather_digits_leaves (char :: chars) 0 0).trans
        (count_digits_leaves (gatherDigits (char :: chars) 0 0).2.2 0)
      exact (digits.weaken is_numeral_char_of_is_digit).trans (after_integer_leaves read)
    · cases read

theorem read_word_rest {word chars rest : List Char}
    (read : readWord word chars = .ok ((), rest)) : chars = word ++ rest := by
  induction word generalizing chars with
  | nil =>
      cases read
      rfl
  | cons letter word induction =>
      cases chars with
      | nil => cases read
      | cons char chars =>
          rw [readWord] at read
          split at read
          · next same => rw [same, induction read, List.cons_append]
          · cases read

theorem map_eq_ok {Error Given Other : Type} {change : Given → Other}
    {result : Except Error Given} {other : Other} (mapped : result.map change = .ok other) :
    ∃ given, result = .ok given ∧ change given = other := by
  cases result with
  | error fault => cases mapped
  | ok given =>
      cases mapped
      exact ⟨given, rfl, rfl⟩

theorem eq_ok_of_to_option {Error Given : Type} {result : Except Error Given} {given : Given}
    (same : result.toOption = some given) : result = .ok given := by
  cases result with
  | error error => cases same
  | ok other => exact congrArg Except.ok (Option.some.inj same)

theorem complete_eq_ok {Given : Type} {result : Result Given} {given : Given} :
    complete result = .ok given ↔ ∃ rest, result = .ok (given, rest) ∧ dropSpace rest = [] := by
  cases result with
  | error fault => simp [complete]
  | ok read =>
      obtain ⟨other, rest⟩ := read
      rw [complete]
      constructor
      · intro accepted
        split at accepted
        · next ends =>
            cases accepted
            exact ⟨rest, rfl, ends⟩
        · cases accepted
      · rintro ⟨_, same, ends⟩
        cases same
        rw [ends]

def readItem (depth : Nat) (items : List Value) (start : List Char) : Result (List Value) :=
  match readValue depth start with
  | .error fault => .error fault
  | .ok (item, after) => .ok (item :: items, after)

def readMember (depth : Nat) (members : List (String × Value)) (name : String)
    (afterName : List Char) : Result (List (String × Value)) :=
  match readColon afterName with
  | .error fault => .error fault
  | .ok start =>
      match readValue depth start with
      | .error fault => .error fault
      | .ok (value, after) => .ok ((name, value) :: members, after)

theorem value_of_read_item {depth : Nat} {items next : List Value} {start rest : List Char}
    (read : readItem depth items start = .ok (next, rest)) :
    ∃ value, readValue depth start = .ok (value, rest) ∧ next = value :: items := by
  rw [readItem] at read
  split at read
  · cases read
  · next value after taken =>
      cases read
      exact ⟨value, taken, rfl⟩

theorem value_of_read_member {depth : Nat} {members next : List (String × Value)} {name : String}
    {afterName rest : List Char}
    (read : readMember depth members name afterName = .ok (next, rest)) :
    ∃ start value, readColon afterName = .ok start ∧
      readValue depth start = .ok (value, rest) ∧ next = (name, value) :: members := by
  rw [readMember] at read
  split at read
  · cases read
  · next start colon =>
      split at read
      · cases read
      · next value after taken =>
          cases read
          exact ⟨start, value, colon, taken, rfl⟩

/-- How a value is read from a text that does not start with a blank. -/
inductive Reading : Nat → List Char → Value → List Char → Prop where
  | null {depth : Nat} {start rest : List Char} :
      readWord ['u', 'l', 'l'] start = .ok ((), rest) → Reading depth ('n' :: start) .null rest
  | true {depth : Nat} {start rest : List Char} :
      readWord ['r', 'u', 'e'] start = .ok ((), rest) →
        Reading depth ('t' :: start) (.bool true) rest
  | false {depth : Nat} {start rest : List Char} :
      readWord ['a', 'l', 's', 'e'] start = .ok ((), rest) →
        Reading depth ('f' :: start) (.bool false) rest
  | string {depth : Nat} {start rest : List Char} {text : String} :
      readQuoted start [] = .ok (text, rest) → Reading depth ('"' :: start) (.string text) rest
  | negative {depth : Nat} {start rest : List Char} {number : Number} :
      readNumber true start = .ok (number, rest) →
        Reading depth ('-' :: start) (.number number) rest
  | natural {depth : Nat} {digit : Char} {start rest : List Char} {number : Number} :
      isDigit digit = true → readNumber false (digit :: start) = .ok (number, rest) →
        Reading depth (digit :: start) (.number number) rest
  | array {depth : Nat} {start rest : List Char} {items : List Value} :
      foldItems (readItem depth) start true [] start = .ok (items, rest) →
        Reading (depth + 1) ('[' :: start) (.array items.reverse) rest
  | object {depth : Nat} {start rest : List Char} {members : List (String × Value)} :
      foldMembers (readMember depth) start true [] start = .ok (members, rest) →
        Reading (depth + 1) ('{' :: start) (.object members.reverse) rest

theorem reading_of_read_value {depth : Nat} {chars rest : List Char} {value : Value}
    (read : readValue depth chars = .ok (value, rest)) :
    Reading depth (dropSpace chars) value rest := by
  rw [readValue.eq_def] at read
  dsimp only at read
  cases spaced : dropSpace chars with
  | nil =>
      rw [spaced] at read
      cases read
  | cons char start =>
      rw [spaced] at read
      dsimp only at read
      by_cases isNull : char = 'n'
      · subst isNull
        obtain ⟨_, word, same⟩ := map_eq_ok read
        cases same
        exact .null word
      by_cases isTrue : char = 't'
      · subst isTrue
        obtain ⟨_, word, same⟩ := map_eq_ok read
        cases same
        exact .true word
      by_cases isFalse : char = 'f'
      · subst isFalse
        obtain ⟨_, word, same⟩ := map_eq_ok read
        cases same
        exact .false word
      by_cases isString : char = '"'
      · subst isString
        obtain ⟨_, quoted, same⟩ := map_eq_ok read
        cases same
        exact .string quoted
      by_cases isNegative : char = '-'
      · subst isNegative
        obtain ⟨_, number, same⟩ := map_eq_ok read
        cases same
        exact .negative number
      rw [if_neg isNull, if_neg isTrue, if_neg isFalse, if_neg isString, if_neg isNegative] at read
      by_cases digit : isDigit char = true
      · rw [if_pos digit] at read
        obtain ⟨_, number, same⟩ := map_eq_ok read
        cases same
        exact .natural digit number
      rw [if_neg digit] at read
      by_cases isArray : char = '['
      · subst isArray
        cases depth with
        | zero => cases read
        | succ depth =>
            obtain ⟨_, folded, same⟩ := map_eq_ok read
            cases same
            exact .array folded
      by_cases isObject : char = '{'
      · subst isObject
        cases depth with
        | zero => cases read
        | succ depth =>
            obtain ⟨_, folded, same⟩ := map_eq_ok read
            cases same
            exact .object folded
      rw [if_neg isArray, if_neg isObject] at read
      cases read

theorem ne_of_is_digit {first char : Char} (digit : isDigit first = true)
    (plain : isDigit char = false) : first ≠ char := by
  rintro rfl
  rw [digit] at plain
  cases plain

theorem not_is_space_of_is_digit {char : Char} (digit : isDigit char = true) :
    isSpace char = false := by
  simp [isSpace, ne_of_is_digit digit (show isDigit ' ' = false from rfl),
    ne_of_is_digit digit (show isDigit '\t' = false from rfl),
    ne_of_is_digit digit (show isDigit '\n' = false from rfl),
    ne_of_is_digit digit (show isDigit '\r' = false from rfl)]

theorem read_value_of_reading {depth : Nat} {chars rest : List Char} {value : Value}
    (reading : Reading depth chars value rest) : readValue depth chars = .ok (value, rest) := by
  rw [readValue.eq_def]
  cases reading with
  | @null _ start _ word =>
      change (readWord ['u', 'l', 'l'] start).map _ = _
      rw [word]
      rfl
  | @true _ start _ word =>
      change (readWord ['r', 'u', 'e'] start).map _ = _
      rw [word]
      rfl
  | @false _ start _ word =>
      change (readWord ['a', 'l', 's', 'e'] start).map _ = _
      rw [word]
      rfl
  | @string _ start _ _ quoted =>
      change (readQuoted start []).map _ = _
      rw [quoted]
      rfl
  | @negative _ start _ _ number =>
      change (readNumber true start).map _ = _
      rw [number]
      rfl
  | @natural _ first start _ _ digit number =>
      have other {char : Char} (plain : isDigit char = false) : first ≠ char :=
        ne_of_is_digit digit plain
      dsimp only
      rw [dropSpace, if_neg (Bool.eq_false_iff.1 (not_is_space_of_is_digit digit))]
      dsimp only
      rw [if_neg (other rfl), if_neg (other rfl), if_neg (other rfl), if_neg (other rfl),
        if_neg (other rfl), if_pos digit, number]
      rfl
  | @array _ start _ _ folded =>
      change (foldItems (readItem _) start true [] start).map _ = _
      rw [folded]
      rfl
  | @object _ start _ _ folded =>
      change (foldMembers (readMember _) start true [] start).map _ = _
      rw [folded]
      rfl

theorem read_value_drop_space (depth : Nat) (chars : List Char) :
    readValue depth (dropSpace chars) = readValue depth chars := by
  rw [readValue.eq_def, readValue.eq_def depth chars]
  dsimp only
  rw [drop_space_drop_space]

end ReconChat.Json

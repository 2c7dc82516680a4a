import ReconChat.Proofs.Json.Nesting

/-!
Printed characters. Strings are written without raw control characters, and so is the compact form
of every value whose numbers are integers of 64 bits. The indented form has line feeds.
-/

namespace ReconChat.Json

def Printed (chars : List Char) : Prop := ∀ char ∈ chars, 0x20 ≤ char.toNat

instance (chars : List Char) : Decidable (Printed chars) :=
  List.decidableBAll (fun char : Char => 0x20 ≤ char.toNat) chars

theorem printed_cons {char : Char} {chars : List Char} :
    Printed (char :: chars) ↔ 0x20 ≤ char.toNat ∧ Printed chars := List.forall_mem_cons

theorem printed_append {first second : List Char} :
    Printed (first ++ second) ↔ Printed first ∧ Printed second := List.forall_mem_append

theorem hex_digit_printed : ∀ digit < 16, 0x20 ≤ (hexDigit digit).toNat := by decide

theorem escape_char_printed (char : Char) : Printed (escapeChar char) := by
  unfold escapeChar
  split
  · decide
  split
  · decide
  split
  · decide
  split
  · decide
  split
  · decide
  split
  · decide
  split
  · decide
  split
  · next control =>
      have high := hex_digit_printed (char.toNat / 16) (by omega)
      have low := hex_digit_printed (char.toNat % 16) (by omega)
      simp only [printed_cons]
      exact ⟨by decide, by decide, by decide, by decide, high, low, by decide⟩
  · next visible =>
      rw [printed_cons]
      exact ⟨Nat.le_of_not_lt visible, by decide⟩

theorem write_quoted_printed (text : String) {tail : List Char} (printed : Printed tail) :
    Printed (writeQuoted text tail) := by
  have escaped : Printed (text.toList.flatMap escapeChar) := by
    intro char member
    obtain ⟨source, _, inside⟩ := List.mem_flatMap.1 member
    exact escape_char_printed source char inside
  simp only [writeQuoted, printed_cons, printed_append]
  exact ⟨by decide, escaped, by decide, printed⟩

theorem number_chars_printed {number : Number} (exact : number.IsExact) :
    Printed number.chars := by
  have digits (magnitude : Nat) : Printed (Nat.toDigits 10 magnitude) := by
    intro char member
    have digit := List.all_eq_true.1 (digits_of_number magnitude) char member
    exact Nat.le_trans (by decide) (digit_bounds digit).1
  cases number with
  | real value => cases exact
  | integer value =>
      cases value with
      | ofNat value => exact digits value
      | negSucc value =>
          rw [Number.chars, printed_cons]
          exact ⟨by decide, digits _⟩

mutual

theorem write_printed : ∀ (value : Value) (tail : List Char), value.IsExact → Printed tail →
    Printed (value.write tail)
  | .null, tail, _, printed => by
      simp only [Value.write, printed_cons]
      exact ⟨by decide, by decide, by decide, by decide, printed⟩
  | .bool true, tail, _, printed => by
      simp only [Value.write, printed_cons]
      exact ⟨by decide, by decide, by decide, by decide, printed⟩
  | .bool false, tail, _, printed => by
      simp only [Value.write, printed_cons]
      exact ⟨by decide, by decide, by decide, by decide, by decide, printed⟩
  | .number number, tail, .number exact, printed =>
      printed_append.2 ⟨number_chars_printed exact, printed⟩
  | .string text, tail, _, printed => write_quoted_printed text printed
  | .array items, tail, .array exact, printed => by
      rw [Value.write, printed_cons]
      exact ⟨by decide, write_items_printed items true _ exact
        (printed_cons.2 ⟨by decide, printed⟩)⟩
  | .object members, tail, .object exact, printed => by
      rw [Value.write, printed_cons]
      exact ⟨by decide, write_members_printed members true _ exact
        (printed_cons.2 ⟨by decide, printed⟩)⟩

theorem write_items_printed : ∀ (items : List Value) (first : Bool) (tail : List Char),
    (∀ item ∈ items, item.IsExact) → Printed tail → Printed (Value.writeItems items first tail)
  | [], _, tail, _, printed => printed
  | item :: rest, first, tail, exact, printed => by
      obtain ⟨itself, others⟩ := List.forall_mem_cons.1 exact
      have written := write_printed item _ itself
        (write_items_printed rest false tail others printed)
      cases first with
      | true => exact written
      | false => exact printed_cons.2 ⟨by decide, written⟩

theorem write_members_printed :
    ∀ (members : List (String × Value)) (first : Bool) (tail : List Char),
      (∀ member ∈ members, member.2.IsExact) → Printed tail →
        Printed (Value.writeMembers members first tail)
  | [], _, tail, _, printed => printed
  | (name, value) :: rest, first, tail, exact, printed => by
      obtain ⟨itself, others⟩ := List.forall_mem_cons.1 exact
      have written := write_printed value _ itself
        (write_members_printed rest false tail others printed)
      have valued : Printed (':' :: value.write (Value.writeMembers rest false tail)) :=
        printed_cons.2 ⟨by decide, written⟩
      have named := write_quoted_printed name valued
      cases first with
      | true => exact named
      | false => exact printed_cons.2 ⟨by decide, named⟩

end

theorem compact_printed {value : Value} (exact : value.IsExact) :
    Printed value.compact.toList := by
  rw [Value.compact, String.toList_ofList]
  exact write_printed value [] exact (by decide)

end ReconChat.Json

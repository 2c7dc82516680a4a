import ReconChat.Proofs.Text.Composed
import ReconChat.Proofs.Text.Punycode
import ReconChat.Proofs.Text.Utf8
import ReconChat.Url.Host

/-!
Hosts that end in a space or a control. Whatever stands in front of it, such a character comes
through percent-decoding, mapping, composing and Punycode, and no domain may hold it; nor can it
stand behind the bracket that closes an address. So there is no such host.
-/

namespace ReconChat.Url

def isControl (char : Char) : Bool := char.toNat ≤ 0x20

section

variable {last : Char}

theorem control_small (control : isControl last = true) : last.toNat ≤ 0x20 :=
  of_decide_eq_true control

theorem control_ne (control : isControl last = true) {char : Char}
    (above : 0x20 < char.toNat) : last ≠ char := by
  rintro rfl
  have small := control_small control
  omega

theorem control_hex (control : isControl last = true) : hexValue? last = none := by
  have small := control_small control
  have digit : ¬('0' ≤ last ∧ last ≤ '9') := by
    intro bounds
    have above : 48 ≤ last.toNat := bounds.1
    omega
  have lower : ¬('a' ≤ last ∧ last ≤ 'f') := by
    intro bounds
    have above : 97 ≤ last.toNat := bounds.1
    omega
  have upper : ¬('A' ≤ last ∧ last ≤ 'F') := by
    intro bounds
    have above : 65 ≤ last.toNat := bounds.1
    omega
  rw [hexValue?, if_neg digit, if_neg lower, if_neg upper]

theorem control_no_digit (control : isControl last = true) : last.isDigit = false := by
  have small := control_small control
  rw [Char.isDigit, Bool.and_eq_false_iff]
  refine .inl (decide_eq_false ?_)
  intro bound
  have above : 48 ≤ last.toNat := bound
  omega

theorem control_no_punycode_digit (control : isControl last = true) :
    Text.Punycode.digitValue? last = none := by
  have small := control_small control
  have lower : ¬last.isLower = true := by
    intro letter
    have above : 97 ≤ last.toNat := of_decide_eq_true (Bool.and_eq_true_iff.1 letter).1
    omega
  have upper : ¬last.isUpper = true := by
    intro letter
    have bounds : last.val ≥ 'A'.val ∧ last.val ≤ 'Z'.val := of_decide_eq_true letter
    have above : 65 ≤ last.toNat := bounds.1
    omega
  rw [Text.Punycode.digitValue?, if_neg lower, if_neg upper, control_no_digit control]
  rfl

theorem percent_decode_control (control : isControl last = true) :
    percentDecode [last] = [last.toNat.toUInt8] := by
  have small := control_small control
  have byte : Text.Utf8.encodeChar last = [last.toNat.toUInt8] := by
    rw [Text.Utf8.encodeChar, if_pos (by omega)]
  rw [percentDecode.eq_def]
  split
  · next same => cases same
  · next same => cases same
  · next same =>
      cases same
      rw [byte]
      rfl

/-- A percent sign stands for itself when the last character is all that it lacks. -/
theorem percent_decode_sign (control : isControl last = true) (alone : Char) :
    percentDecode ['%', alone, last] = 0x25 :: percentDecode [alone, last] := by
  rw [percentDecode, control_hex control]
  split
  · next digit => cases digit
  · rfl

theorem percent_decode_last (control : isControl last = true) (chars : List Char) :
    ∃ bytes, percentDecode (chars ++ [last]) = bytes ++ [last.toNat.toUInt8] := by
  fun_induction percentDecode chars with
  | case1 => exact ⟨[], percent_decode_control control⟩
  | case2 first second rest high low isLow isHigh induction =>
      obtain ⟨bytes, same⟩ := induction
      rw [List.cons_append, List.cons_append, List.cons_append, percentDecode, isHigh, isLow]
      exact ⟨_ :: bytes, by rw [same, List.cons_append]⟩
  | case3 first second rest noDigits induction =>
      obtain ⟨bytes, same⟩ := induction
      rw [List.cons_append, List.cons_append, List.cons_append, percentDecode]
      refine ⟨0x25 :: bytes, ?_⟩
      split
      · next isHigh isLow => exact absurd isLow (noDigits _ _ isHigh)
      · rw [← List.cons_append, ← List.cons_append, same, List.cons_append]
  | case4 char rest other induction =>
      obtain ⟨bytes, same⟩ := induction
      by_cases sign : char = '%' ∧ ∃ alone, rest = [alone]
      · obtain ⟨rfl, alone, rfl⟩ := sign
        exact ⟨0x25 :: bytes, (percent_decode_sign control alone).trans (congrArg _ same)⟩
      · refine ⟨Text.Utf8.encodeChar char ++ bytes, ?_⟩
        rw [List.cons_append, percentDecode, same, List.append_assoc]
        -- Two characters behind a percent sign would be there without the last one, too.
        intro first second others isSign behind
        cases rest with
        | nil => simp at behind
        | cons alone rest =>
            cases rest with
            | nil => exact sign ⟨isSign, alone, rfl⟩
            | cons next rest => exact other alone next rest isSign rfl

theorem to_lower_control (control : isControl last = true) : last.toLower = last := by
  have small := control_small control
  have capital : ¬(last.val ≥ 'A'.val ∧ last.val ≤ 'Z'.val) := by
    intro bounds
    have above : 65 ≤ last.toNat := bounds.1
    omega
  exact dif_neg capital

theorem map_control (control : isControl last = true) : Domain.map? last = some [last] := by
  have small := control_small control
  rw [Domain.map?, if_pos (by omega), to_lower_control control]

theorem pieces_last {isSeparator : Char → Bool} (kept : isSeparator last = false)
    (chars : List Char) :
    ∃ piece ∈ Text.pieces isSeparator (chars ++ [last]), piece.getLast? = some last := by
  induction chars with
  | nil =>
      refine ⟨[last], ?_, rfl⟩
      rw [List.nil_append, Text.pieces, kept]
      exact List.mem_cons_self
  | cons char chars induction =>
      obtain ⟨piece, member, ends⟩ := induction
      rw [List.cons_append, Text.pieces]
      split
      · exact ⟨piece, List.mem_cons_of_mem _ member, ends⟩
      · split
        · next nothing =>
            rw [nothing] at member
            cases member
        · next first others pieces =>
            rw [pieces] at member
            rcases List.mem_cons.1 member with rfl | later
            · refine ⟨char :: piece, List.mem_cons_self, ?_⟩
              rw [List.getLast?_cons, ends]
              rfl
            · exact ⟨piece, List.mem_cons_of_mem _ later, ends⟩

theorem mem_of_map_m {Given Other : Type} {change : Given → Option Other} {list : List Given}
    {changed : List Other} (all : list.mapM change = some changed) {given : Given}
    (member : given ∈ list) : ∃ other ∈ changed, change given = some other := by
  induction list generalizing changed with
  | nil => cases member
  | cons first list induction =>
      simp only [List.mapM_cons, Option.bind_eq_bind, Option.bind_eq_some_iff, Option.pure_def,
        Option.some.injEq] at all
      obtain ⟨head, headSame, tail, tailSame, rfl⟩ := all
      rcases List.mem_cons.1 member with rfl | later
      · exact ⟨head, List.mem_cons_self, headSame⟩
      · obtain ⟨other, inside, same⟩ := induction tailSame later
        exact ⟨other, List.mem_cons_of_mem _ inside, same⟩

theorem mem_intersperse {Given : Type} {separator given : Given} {list : List Given}
    (member : given ∈ list) : given ∈ list.intersperse separator := by
  obtain ⟨index, found⟩ := List.mem_iff_getElem?.1 member
  refine List.mem_iff_getElem?.2 ⟨2 * index, ?_⟩
  rw [List.getElem?_intersperse_two_mul, found]

namespace Domain

theorem label_holds_control (control : isControl last = true) {text : List Char} {label : Label}
    (ends : text.getLast? = some last) (read : Label.ofText? text = some label) :
    last ∈ label := by
  have small := control_small control
  rw [Label.ofText?] at read
  split at read
  · next opened =>
      obtain ⟨code, rfl⟩ := List.isPrefixOf_iff_prefix.1 opened
      rw [List.drop_left] at read
      dsimp only at read
      split at read
      · cases read
      · -- The character is no part of the opening, so that it ends the code.
        have codeEnds : code.getLast? = some last := by
          rw [List.getLast?_append] at ends
          cases inside : code.getLast? with
          | some final => rwa [inside] at ends
          | none =>
              rw [inside] at ends
              have same : '-' = last := Option.some.inj ends
              exact absurd same.symm (control_ne control (by decide))
        obtain ⟨front, rfl⟩ := List.getLast?_eq_some_iff.1 codeEnds
        rw [Text.Punycode.decode_last (control_no_punycode_digit control)
          (control_ne control (by decide))] at read
        cases read
  · split at read
    · cases read
      exact List.mem_of_getLast? ends
    · cases read

theorem encode_holds_control (control : isControl last = true) {label : Label}
    (member : last ∈ label) : last ∈ Label.encode label := by
  have small := control_small control
  have ascii : Text.Punycode.isAscii last = true := decide_eq_true (by omega)
  rw [Label.encode]
  split
  · exact member
  · exact List.mem_append_right _ (Text.Punycode.mem_encode ascii member)

theorem labels_hold_control (control : isControl last = true) {chars : List Char}
    {labels : List Label} (found : labels? (chars ++ [last]) = some labels) :
    ∃ label ∈ labels, last ∈ label := by
  have small := control_small control
  simp only [labels?, Option.bind_eq_bind, Option.bind_eq_some_iff, List.mapM_append,
    List.mapM_cons, List.mapM_nil, map_control control, Option.pure_def, Option.bind_some,
    Option.some.injEq] at found
  obtain ⟨_, ⟨mapped, _, rfl⟩, read, all, same⟩ := found
  rw [List.flatten_append, List.flatten_singleton] at all
  obtain ⟨front, composed⟩ := List.getLast?_eq_some_iff.1
    (Text.composed_last (show last.toNat < 0xC0 by omega) mapped.flatten)
  rw [composed] at all
  have dot : isDot last = false := decide_eq_false (control_ne control (by decide))
  obtain ⟨piece, member, ends⟩ := pieces_last dot front
  obtain ⟨label, inside, meant⟩ := mem_of_map_m all member
  split at same
  · cases same
  · cases same
    exact ⟨label, inside, label_holds_control control ends meant⟩

theorem to_ascii_holds_control (control : isControl last = true) {chars domain : List Char}
    (read : toAscii? (chars ++ [last]) = some domain) : last ∈ domain := by
  rw [toAscii?] at read
  split at read
  · cases read
    rw [List.map_append, List.map_singleton, to_lower_control control]
    exact List.mem_append_right _ List.mem_cons_self
  · obtain ⟨labels, found, rfl⟩ := Option.map_eq_some_iff.1 read
    obtain ⟨label, inside, holds⟩ := labels_hold_control control found
    rw [List.intercalate, List.mem_flatten]
    have inner : label.encode ∈ (labels.map Label.encode).intersperse ['.'] :=
      mem_intersperse (List.mem_map.2 ⟨label, inside, rfl⟩)
    exact ⟨label.encode, inner, encode_holds_control control holds⟩

end Domain

/-- No host ends in a space or a control. -/
theorem read_host_control (control : isControl last = true) (chars : List Char) :
    Host.read (chars ++ [last]) = none := by
  have small := control_small control
  rw [Host.read.eq_def]
  split
  · next rest same =>
      cases chars with
      | nil =>
          have bracket : last = '[' := (List.cons.inj same).1
          exact absurd bracket (control_ne control (by decide))
      | cons char chars =>
          rw [← (List.cons.inj same).2, if_neg]
          have different := control_ne control (show 0x20 < ']'.toNat by decide)
          simpa using different
  · obtain ⟨bytes, decoded⟩ := percent_decode_last control chars
    have byte : last.toNat.toUInt8.toNat = last.toNat := Text.Utf8.to_nat_byte (by omega)
    have ascii : last.toNat.toUInt8.toNat < 0x80 := by omega
    obtain ⟨front, text⟩ := Text.Utf8.decode_lossy_last ascii bytes
    rw [byte, Char.ofNat_toNat] at text
    rw [decoded, text]
    cases read : Domain.toAscii? (front ++ [last]) with
    | none => rfl
    | some domain =>
        have forbidden : domain.any Host.isForbidden = true := by
          refine List.any_eq_true.2 ⟨last, Domain.to_ascii_holds_control control read, ?_⟩
          rw [Host.isForbidden, decide_eq_true small]
          rfl
        rw [Option.bind_eq_bind, Option.bind_some, forbidden, Bool.or_true, if_pos rfl]

end

end ReconChat.Url

import ReconChat.Text.Utf8

/-!
The bytes of a text decode to the text, and the order of two texts is that of their bytes. Both
rest on the first byte of a character, which says how many bytes follow. Nothing is said here
about bytes that are no text, except that an ASCII byte is never a part of a stray run.
-/

namespace ReconChat.Text.Utf8

section Step

variable {first second third fourth : UInt8} (rest : List UInt8)

theorem step_one (ascii : first.toNat < 0x80) :
    step first rest = .char (Char.ofNat first.toNat) rest := by
  rw [step.eq_def, if_pos (UInt8.lt_iff_toNat_lt.2 ascii)]

theorem step_two (above : 0xC2 ≤ first.toNat) (below : first.toNat < 0xE0)
    (continues : isSecond first second = true) :
    step first (second :: rest) =
      .char (Char.ofNat (first.toNat % 0x20 * 0x40 + low second)) rest := by
  rw [step.eq_def]
  simp only [UInt8.lt_iff_toNat_lt, UInt8.reduceToNat]
  rw [if_neg (by omega), if_neg (by omega), if_pos below, if_pos continues]

theorem step_three (above : 0xE0 ≤ first.toNat) (below : first.toNat < 0xF0)
    (continues : isSecond first second = true) (ends : isContinuation third = true) :
    step first (second :: third :: rest) =
      .char (Char.ofNat (first.toNat % 0x10 * 0x1000 + low second * 0x40 + low third)) rest := by
  rw [step.eq_def]
  simp only [UInt8.lt_iff_toNat_lt, UInt8.reduceToNat]
  rw [if_neg (by omega), if_neg (by omega), if_neg (by omega), if_pos below, if_pos continues,
    if_pos ends]

theorem step_four (above : 0xF0 ≤ first.toNat) (below : first.toNat < 0xF5)
    (continues : isSecond first second = true) (goesOn : isContinuation third = true)
    (ends : isContinuation fourth = true) :
    step first (second :: third :: fourth :: rest) =
      .char (Char.ofNat (first.toNat % 0x08 * 0x40000 + low second * 0x1000 +
        low third * 0x40 + low fourth)) rest := by
  rw [step.eq_def]
  simp only [UInt8.lt_iff_toNat_lt, UInt8.reduceToNat]
  rw [if_neg (by omega), if_neg (by omega), if_neg (by omega), if_neg (by omega), if_pos below,
    if_pos continues, if_pos goesOn, if_pos ends]

end Step

theorem to_nat_byte {value : Nat} (small : value < 0x100) : value.toUInt8.toNat = value := by
  simp [Nat.toUInt8, UInt8.toNat_ofNat', Nat.mod_eq_of_lt small]

theorem is_continuation_byte (value : Nat) (above : 0x80 ≤ value) (below : value ≤ 0xBF) :
    isContinuation value.toUInt8 = true := by
  simp only [isContinuation, UInt8.le_iff_toNat_le, UInt8.reduceToNat, Bool.and_eq_true,
    decide_eq_true_eq, to_nat_byte (show value < 0x100 by omega)]
  exact ⟨above, below⟩

theorem is_second_byte (first second : Nat) (small : first < 0x100) (above : 0x80 ≤ second)
    (below : second ≤ 0xBF) (longForm : first = 0xE0 → 0xA0 ≤ second)
    (noSurrogate : first = 0xED → second ≤ 0x9F) (longerForm : first = 0xF0 → 0x90 ≤ second)
    (inRange : first = 0xF4 → second ≤ 0x8F) :
    isSecond first.toUInt8 second.toUInt8 = true := by
  have firstByte := to_nat_byte small
  have secondByte := to_nat_byte (show second < 0x100 by omega)
  simp only [isSecond, isContinuation, UInt8.le_iff_toNat_le, ← UInt8.toNat_inj, firstByte,
    secondByte, UInt8.reduceToNat]
  grind

theorem encode_char_cases (char : Char) :
    let code := char.toNat
    (code < 0x80 ∧ encodeChar char = [code.toUInt8]) ∨
    (0x80 ≤ code ∧ code < 0x800 ∧
      encodeChar char = [(0xC0 + code / 0x40).toUInt8, (0x80 + code % 0x40).toUInt8]) ∨
    (0x800 ≤ code ∧ code < 0x10000 ∧ (code < 0xD800 ∨ 0xDFFF < code) ∧
      encodeChar char = [(0xE0 + code / 0x1000).toUInt8, (0x80 + code / 0x40 % 0x40).toUInt8,
        (0x80 + code % 0x40).toUInt8]) ∨
    (0x10000 ≤ code ∧ code < 0x110000 ∧
      encodeChar char = [(0xF0 + code / 0x40000).toUInt8, (0x80 + code / 0x1000 % 0x40).toUInt8,
        (0x80 + code / 0x40 % 0x40).toUInt8, (0x80 + code % 0x40).toUInt8]) := by
  intro code
  have valid : code < 0xD800 ∨ (0xDFFF < code ∧ code < 0x110000) := char.valid
  have bytes := encodeChar.eq_def char
  simp only [show char.toNat = code from rfl] at bytes
  by_cases one : code < 0x80
  · exact .inl ⟨one, by rw [bytes, if_pos one]⟩
  by_cases two : code < 0x800
  · exact .inr (.inl ⟨by omega, two, by rw [bytes, if_neg one, if_pos two]⟩)
  by_cases three : code < 0x10000
  · exact .inr (.inr (.inl ⟨by omega, three, by omega,
      by rw [bytes, if_neg one, if_neg two, if_pos three]⟩))
  · exact .inr (.inr (.inr ⟨by omega, by omega,
      by rw [bytes, if_neg one, if_neg two, if_neg three]⟩))

section Code

variable {code : Nat} (rest : List UInt8)

theorem step_two_bytes (above : 0x80 ≤ code) (below : code < 0x800) :
    step (0xC0 + code / 0x40).toUInt8 ((0x80 + code % 0x40).toUInt8 :: rest) =
      .char (Char.ofNat code) rest := by
  have first := to_nat_byte (show 0xC0 + code / 0x40 < 0x100 by omega)
  have second := to_nat_byte (show 0x80 + code % 0x40 < 0x100 by omega)
  have continues := is_second_byte (0xC0 + code / 0x40) (0x80 + code % 0x40) (by omega) (by omega)
    (by omega) (by omega) (by omega) (by omega) (by omega)
  have whole : (0xC0 + code / 0x40) % 0x20 * 0x40 + (0x80 + code % 0x40) % 0x40 = code := by omega
  rw [step_two rest (by omega) (by omega) continues, low, first, second, whole]

theorem step_three_bytes (above : 0x800 ≤ code) (below : code < 0x10000)
    (valid : code < 0xD800 ∨ 0xDFFF < code) :
    step (0xE0 + code / 0x1000).toUInt8
        ((0x80 + code / 0x40 % 0x40).toUInt8 :: (0x80 + code % 0x40).toUInt8 :: rest) =
      .char (Char.ofNat code) rest := by
  have first := to_nat_byte (show 0xE0 + code / 0x1000 < 0x100 by omega)
  have second := to_nat_byte (show 0x80 + code / 0x40 % 0x40 < 0x100 by omega)
  have third := to_nat_byte (show 0x80 + code % 0x40 < 0x100 by omega)
  have continues := is_second_byte (0xE0 + code / 0x1000) (0x80 + code / 0x40 % 0x40) (by omega)
    (by omega) (by omega) (by omega) (by omega) (by omega) (by omega)
  have ends := is_continuation_byte (0x80 + code % 0x40) (by omega) (by omega)
  have whole : (0xE0 + code / 0x1000) % 0x10 * 0x1000 + (0x80 + code / 0x40 % 0x40) % 0x40 * 0x40 +
      (0x80 + code % 0x40) % 0x40 = code := by omega
  rw [step_three rest (by omega) (by omega) continues ends, low, low, first, second, third, whole]

theorem step_four_bytes (above : 0x10000 ≤ code) (below : code < 0x110000) :
    step (0xF0 + code / 0x40000).toUInt8
        ((0x80 + code / 0x1000 % 0x40).toUInt8 :: (0x80 + code / 0x40 % 0x40).toUInt8 ::
          (0x80 + code % 0x40).toUInt8 :: rest) =
      .char (Char.ofNat code) rest := by
  have first := to_nat_byte (show 0xF0 + code / 0x40000 < 0x100 by omega)
  have second := to_nat_byte (show 0x80 + code / 0x1000 % 0x40 < 0x100 by omega)
  have third := to_nat_byte (show 0x80 + code / 0x40 % 0x40 < 0x100 by omega)
  have fourth := to_nat_byte (show 0x80 + code % 0x40 < 0x100 by omega)
  have continues := is_second_byte (0xF0 + code / 0x40000) (0x80 + code / 0x1000 % 0x40) (by omega)
    (by omega) (by omega) (by omega) (by omega) (by omega) (by omega)
  have goesOn := is_continuation_byte (0x80 + code / 0x40 % 0x40) (by omega) (by omega)
  have ends := is_continuation_byte (0x80 + code % 0x40) (by omega) (by omega)
  have whole : (0xF0 + code / 0x40000) % 0x08 * 0x40000 +
      (0x80 + code / 0x1000 % 0x40) % 0x40 * 0x1000 +
      (0x80 + code / 0x40 % 0x40) % 0x40 * 0x40 + (0x80 + code % 0x40) % 0x40 = code := by omega
  rw [step_four rest (by omega) (by omega) continues goesOn ends, low, low, low, first, second,
    third, fourth, whole]

end Code

theorem step_encode_char (char : Char) (rest : List UInt8) :
    ∃ first others, encodeChar char = first :: others ∧
      step first (others ++ rest) = .char char rest := by
  have restored : Char.ofNat char.toNat = char := Char.ofNat_toNat char
  rcases encode_char_cases char with
    ⟨below, bytes⟩ | ⟨above, below, bytes⟩ | ⟨above, below, valid, bytes⟩ | ⟨above, below, bytes⟩
  · have first := to_nat_byte (show char.toNat < 0x100 by omega)
    refine ⟨_, _, bytes, ?_⟩
    rw [List.nil_append, step_one rest (by omega), first, restored]
  · refine ⟨_, _, bytes, ?_⟩
    exact (step_two_bytes rest above below).trans (by rw [restored])
  · refine ⟨_, _, bytes, ?_⟩
    exact (step_three_bytes rest above below valid).trans (by rw [restored])
  · refine ⟨_, _, bytes, ?_⟩
    exact (step_four_bytes rest above below).trans (by rw [restored])

theorem pieces_from_encode (chars : List Char) (clock : List UInt8) (done : List Piece)
    (enough : (encodeChars chars).length ≤ clock.length) :
    piecesFrom clock (encodeChars chars) done = done.reverse ++ chars.map .char := by
  induction chars generalizing clock done with
  | nil => cases clock <;> simp [encodeChars, piecesFrom]
  | cons char chars induction =>
      obtain ⟨first, others, bytes, stepped⟩ := step_encode_char char (encodeChars chars)
      have whole : encodeChars (char :: chars) = first :: (others ++ encodeChars chars) := by
        rw [encodeChars, List.flatMap_cons, bytes, ← encodeChars, List.cons_append]
      rw [whole] at enough ⊢
      cases clock with
      | nil => simp at enough
      | cons tick clock =>
          rw [piecesFrom, stepped]
          dsimp only
          rw [induction]
          · simp
          · simp only [List.length_cons, List.length_append] at enough
            omega

theorem decode_lossy_encode (text : String) : decodeLossy (encode text) = text := by
  rw [decodeLossy, encode, pieces, pieces_from_encode _ _ _ (Nat.le_refl _), List.reverse_nil,
    List.nil_append, List.map_map]
  exact (congrArg String.ofList (List.map_id _)).trans String.ofList_toList

/-- The bits that a continuation holds decide where the bits in front of them are the same. -/
theorem six_bits_lt {code other : Nat} (less : code < other) :
    code / 0x40 < other / 0x40 ∨ code / 0x40 = other / 0x40 ∧ code % 0x40 < other % 0x40 := by
  omega

theorem four_bytes_lt {char other : Char} (less : char.toNat < other.toNat)
    (below : other.toNat < 0x110000) (rest others : List UInt8) :
    (0xF0 + char.toNat / 0x40000).toUInt8 :: (0x80 + char.toNat / 0x1000 % 0x40).toUInt8 ::
        (0x80 + char.toNat / 0x40 % 0x40).toUInt8 :: (0x80 + char.toNat % 0x40).toUInt8 :: rest <
      (0xF0 + other.toNat / 0x40000).toUInt8 :: (0x80 + other.toNat / 0x1000 % 0x40).toUInt8 ::
        (0x80 + other.toNat / 0x40 % 0x40).toUInt8 ::
        (0x80 + other.toNat % 0x40).toUInt8 :: others := by
  have bound (code : Nat) : 0x80 + code % 0x40 < 0x100 := by omega
  simp only [List.cons_lt_cons_iff, UInt8.lt_iff_toNat_lt, ← UInt8.toNat_inj, to_nat_byte (bound _),
    to_nat_byte (show 0xF0 + char.toNat / 0x40000 < 0x100 by omega),
    to_nat_byte (show 0xF0 + other.toNat / 0x40000 < 0x100 by omega)]
  have fold (code : Nat) : code / 0x1000 = code / 0x40 / 0x40 ∧
      code / 0x40000 = code / 0x40 / 0x40 / 0x40 := by omega
  rw [(fold char.toNat).1, (fold char.toNat).2, (fold other.toNat).1, (fold other.toNat).2]
  rcases six_bits_lt less with second | ⟨_, _⟩
  · rcases six_bits_lt second with first | ⟨_, _⟩
    · rcases six_bits_lt first with _ | ⟨_, _⟩ <;> omega
    · omega
  · omega

/-- The first byte that differs decides like the characters. -/
theorem encode_char_lt {char other : Char} (less : char < other) (rest others : List UInt8) :
    encodeChar char ++ rest < encodeChar other ++ others := by
  have codes : char.toNat < other.toNat := less
  rcases encode_char_cases char with
    ⟨_, bytes⟩ | ⟨_, _, bytes⟩ | ⟨_, _, _, bytes⟩ | ⟨_, _, bytes⟩ <;>
  rcases encode_char_cases other with
    ⟨_, otherBytes⟩ | ⟨_, _, otherBytes⟩ | ⟨_, _, _, otherBytes⟩ | ⟨_, below, otherBytes⟩ <;>
  rw [bytes, otherBytes]
  case inr.inr.inr.inr.inr.inr => exact four_bytes_lt codes below rest others
  all_goals
    simp only [List.cons_append, List.cons_lt_cons_iff, UInt8.lt_iff_toNat_lt, ← UInt8.toNat_inj,
      Nat.toUInt8_eq, UInt8.toNat_ofNat']
    omega

theorem encode_chars_lt {chars others : List Char} (less : chars < others) :
    encodeChars chars < encodeChars others := by
  induction less with
  | @nil char others =>
      obtain ⟨first, bytes, same, _⟩ := step_encode_char char []
      rw [encodeChars, encodeChars, List.flatMap_cons, same]
      exact .nil
  | rel less => exact encode_char_lt less _ _
  | cons less induction => exact List.append_left_lt induction

theorem encode_lt {text other : String} (less : text < other) : encode text < encode other :=
  encode_chars_lt less

def Step.rest : Step → List UInt8
  | .char _ rest => rest
  | .stray _ rest => rest

theorem second_above {first second : UInt8} (continues : isSecond first second = true) :
    0x80 ≤ second.toNat := by
  simp only [isSecond, isContinuation, UInt8.le_iff_toNat_le, UInt8.reduceToNat] at continues
  grind

theorem continuation_above {byte : UInt8} (continues : isContinuation byte = true) :
    0x80 ≤ byte.toNat := by
  simp only [isContinuation, UInt8.le_iff_toNat_le, UInt8.reduceToNat, Bool.and_eq_true,
    decide_eq_true_eq] at continues
  exact continues.1

/-- A list from whose front bytes above ASCII are taken, and what is left of it. -/
def Takes (bytes rest : List UInt8) : Prop :=
  ∃ taken, bytes = taken ++ rest ∧ ∀ byte ∈ taken, 0x80 ≤ byte.toNat

theorem Takes.refl (bytes : List UInt8) : Takes bytes bytes := ⟨[], rfl, by simp⟩

theorem Takes.cons {byte : UInt8} {bytes rest : List UInt8} (above : 0x80 ≤ byte.toNat)
    (later : Takes bytes rest) : Takes (byte :: bytes) rest := by
  obtain ⟨taken, rfl, all⟩ := later
  refine ⟨byte :: taken, rfl, ?_⟩
  intro other member
  rcases List.mem_cons.1 member with rfl | inside
  · exact above
  · exact all other inside

theorem step_takes (first : UInt8) (bytes : List UInt8) :
    Takes bytes (step first bytes).rest := by
  rw [step.eq_def]
  split
  · exact .refl _
  split
  · exact .refl _
  split
  · split
    · split
      · next continues => exact .cons (second_above continues) (.refl _)
      · exact .refl _
    · exact .refl _
  split
  · split
    · split
      · next continues =>
          refine .cons (second_above continues) ?_
          split
          · split
            · next ends => exact .cons (continuation_above ends) (.refl _)
            · exact .refl _
          · exact .refl _
      · exact .refl _
    · exact .refl _
  split
  · split
    · split
      · next continues =>
          refine .cons (second_above continues) ?_
          split
          · split
            · next goesOn =>
                refine .cons (continuation_above goesOn) ?_
                split
                · split
                  · next ends => exact .cons (continuation_above ends) (.refl _)
                  · exact .refl _
                · exact .refl _
            · exact .refl _
          · exact .refl _
      · exact .refl _
    · exact .refl _
  · exact .refl _

theorem step_leaves_last (first : UInt8) {last : UInt8} (ascii : last.toNat < 0x80)
    (bytes : List UInt8) :
    ∃ rest, (step first (bytes ++ [last])).rest = rest ++ [last] ∧
      rest.length ≤ bytes.length := by
  obtain ⟨taken, whole, all⟩ := step_takes first (bytes ++ [last])
  generalize (step first (bytes ++ [last])).rest = left at whole ⊢
  rcases List.eq_nil_or_concat left with rfl | ⟨rest, final, rfl⟩
  · rw [List.append_nil] at whole
    have above := all last (whole ▸ List.mem_append_right bytes List.mem_cons_self)
    omega
  · rw [List.concat_eq_append, ← List.append_assoc] at whole
    obtain ⟨front, same⟩ := List.append_inj' whole rfl
    cases same
    refine ⟨rest, List.concat_eq_append, ?_⟩
    rw [front, List.length_append]
    omega

/-- An ASCII byte at the end is a character of its own, whatever the bytes in front of it are. -/
theorem pieces_from_last {last : UInt8} (ascii : last.toNat < 0x80) (clock bytes : List UInt8)
    (done : List Piece) (enough : bytes.length < clock.length) :
    ∃ front, piecesFrom clock (bytes ++ [last]) done =
      front ++ [.char (Char.ofNat last.toNat)] := by
  induction clock generalizing bytes done with
  | nil => simp at enough
  | cons tick clock induction =>
      cases bytes with
      | nil =>
          rw [List.nil_append, piecesFrom, step_one [] ascii]
          dsimp only
          refine ⟨done.reverse, ?_⟩
          cases clock <;> simp [piecesFrom]
      | cons first bytes =>
          obtain ⟨rest, left, shorter⟩ := step_leaves_last first ascii bytes
          rw [List.cons_append, piecesFrom]
          simp only [List.length_cons] at enough
          cases stepped : step first (bytes ++ [last]) with
          | char char others =>
              rw [stepped] at left
              dsimp only [Step.rest] at left ⊢
              rw [left]
              exact induction rest _ (by omega)
          | stray run others =>
              rw [stepped] at left
              dsimp only [Step.rest] at left ⊢
              rw [left]
              exact induction rest _ (by omega)

theorem decode_lossy_last {last : UInt8} (ascii : last.toNat < 0x80) (bytes : List UInt8) :
    ∃ front, (decodeLossy (bytes ++ [last])).toList = front ++ [Char.ofNat last.toNat] := by
  obtain ⟨front, same⟩ := pieces_from_last ascii (bytes ++ [last]) bytes [] (by simp)
  rw [decodeLossy, String.toList_ofList, pieces, same, List.map_append]
  exact ⟨_, rfl⟩

end ReconChat.Text.Utf8

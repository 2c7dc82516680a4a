import ReconChat.Proofs.Text.Utf8

/-!
Decoding without losses takes back encoding and nothing else: bytes decode to a text exactly if
they are the bytes of the text. A character that is read is written with the bytes it is read from,
since overlong forms and surrogates are refused by their second byte.
-/

namespace ReconChat.Text.Utf8

def IsCode (code : Nat) : Prop := code < 0xD800 ∨ 0xDFFF < code ∧ code < 0x110000

theorem to_nat_of_code {code : Nat} (valid : IsCode code) : (Char.ofNat code).toNat = code := by
  have isChar : code.isValidChar := valid
  rw [Char.ofNat, dif_pos isChar]
  rfl

theorem continuation_bounds {byte : UInt8} (continues : isContinuation byte = true) :
    0x80 ≤ byte.toNat ∧ byte.toNat ≤ 0xBF := by
  simpa [isContinuation, UInt8.le_iff_toNat_le] using continues

theorem second_bounds {first second : UInt8} (continues : isSecond first second = true) :
    0x80 ≤ second.toNat ∧ second.toNat ≤ 0xBF ∧
      (first.toNat = 0xE0 → 0xA0 ≤ second.toNat) ∧ (first.toNat = 0xED → second.toNat ≤ 0x9F) ∧
      (first.toNat = 0xF0 → 0x90 ≤ second.toNat) ∧ (first.toNat = 0xF4 → second.toNat ≤ 0x8F) := by
  simp only [isSecond, isContinuation, UInt8.le_iff_toNat_le, ← UInt8.toNat_inj,
    UInt8.reduceToNat] at continues
  -- One case for each first byte that narrows the second, and one for all others.
  repeat' split at continues
  all_goals
    simp only [Bool.and_eq_true, decide_eq_true_eq] at continues
    omega

section Code

variable {code : Nat}

theorem encode_one (below : code < 0x80) : encodeChar (Char.ofNat code) = [code.toUInt8] := by
  have same := to_nat_of_code (.inl (by omega) : IsCode code)
  rw [encodeChar]
  simp only [same]
  rw [if_pos below]

theorem encode_two (above : 0x80 ≤ code) (below : code < 0x800) :
    encodeChar (Char.ofNat code) =
      [(0xC0 + code / 0x40).toUInt8, (0x80 + code % 0x40).toUInt8] := by
  have same := to_nat_of_code (.inl (by omega) : IsCode code)
  rw [encodeChar]
  simp only [same]
  rw [if_neg (by omega), if_pos below]

theorem encode_three (valid : IsCode code) (above : 0x800 ≤ code) (below : code < 0x10000) :
    encodeChar (Char.ofNat code) =
      [(0xE0 + code / 0x1000).toUInt8, (0x80 + code / 0x40 % 0x40).toUInt8,
        (0x80 + code % 0x40).toUInt8] := by
  rw [encodeChar]
  simp only [to_nat_of_code valid]
  rw [if_neg (by omega), if_neg (by omega), if_pos below]

theorem encode_four (above : 0x10000 ≤ code) (below : code < 0x110000) :
    encodeChar (Char.ofNat code) =
      [(0xF0 + code / 0x40000).toUInt8, (0x80 + code / 0x1000 % 0x40).toUInt8,
        (0x80 + code / 0x40 % 0x40).toUInt8, (0x80 + code % 0x40).toUInt8] := by
  have same := to_nat_of_code (.inr ⟨by omega, below⟩ : IsCode code)
  rw [encodeChar]
  simp only [same]
  rw [if_neg (by omega), if_neg (by omega), if_neg (by omega)]

end Code

theorem byte_of_to_nat (byte : UInt8) {value : Nat} (same : value = byte.toNat) :
    value.toUInt8 = byte := by
  rw [same]
  simp

section Step

variable {first second third fourth : UInt8}

theorem encode_read_two (above : 0xC2 ≤ first.toNat) (below : first.toNat < 0xE0)
    (continues : isSecond first second = true) :
    encodeChar (Char.ofNat (first.toNat % 0x20 * 0x40 + low second)) = [first, second] := by
  have bounds := second_bounds continues
  rw [low, encode_two (by omega) (by omega), byte_of_to_nat first (by omega),
    byte_of_to_nat second (by omega)]

theorem encode_read_three (above : 0xE0 ≤ first.toNat) (below : first.toNat < 0xF0)
    (continues : isSecond first second = true) (ends : isContinuation third = true) :
    encodeChar (Char.ofNat (first.toNat % 0x10 * 0x1000 + low second * 0x40 + low third)) =
      [first, second, third] := by
  have bounds := second_bounds continues
  have last := continuation_bounds ends
  have valid : IsCode (first.toNat % 0x10 * 0x1000 + second.toNat % 0x40 * 0x40 +
      third.toNat % 0x40) := by
    rw [IsCode]
    omega
  rw [low, low, encode_three valid (by omega) (by omega),
    byte_of_to_nat first (by omega), byte_of_to_nat second (by omega),
    byte_of_to_nat third (by omega)]

theorem encode_read_four (above : 0xF0 ≤ first.toNat) (below : first.toNat < 0xF5)
    (continues : isSecond first second = true) (goesOn : isContinuation third = true)
    (ends : isContinuation fourth = true) :
    encodeChar (Char.ofNat (first.toNat % 0x08 * 0x40000 + low second * 0x1000 +
        low third * 0x40 + low fourth)) =
      [first, second, third, fourth] := by
  have bounds := second_bounds continues
  have middle := continuation_bounds goesOn
  have last := continuation_bounds ends
  rw [low, low, low, encode_four (by omega) (by omega),
    byte_of_to_nat first (by omega), byte_of_to_nat second (by omega),
    byte_of_to_nat third (by omega), byte_of_to_nat fourth (by omega)]

theorem encode_of_step {char : Char} {bytes rest : List UInt8}
    (read : step first bytes = .char char rest) : first :: bytes = encodeChar char ++ rest := by
  rw [step.eq_def] at read
  simp only [UInt8.lt_iff_toNat_lt, UInt8.reduceToNat] at read
  split at read
  · next ascii =>
      cases read
      rw [encode_one ascii, byte_of_to_nat first rfl]
      rfl
  split at read
  · cases read
  split at read
  · split at read
    · split at read
      · next continues =>
          cases read
          rw [encode_read_two (by omega) (by omega) continues]
          rfl
      · cases read
    · cases read
  split at read
  · split at read
    · split at read
      · next continues =>
          split at read
          · split at read
            · next ends =>
                cases read
                rw [encode_read_three (by omega) (by omega) continues ends]
                rfl
            · cases read
          · cases read
      · cases read
    · cases read
  split at read
  · split at read
    · split at read
      · next continues =>
          split at read
          · split at read
            · next goesOn =>
                split at read
                · split at read
                  · next ends =>
                      cases read
                      rw [encode_read_four (by omega) (by omega) continues goesOn ends]
                      rfl
                  · cases read
                · cases read
            · cases read
          · cases read
      · cases read
    · cases read
  · cases read

end Step

theorem whole_chars_iff (pieces : List Piece) (done chars : List Char) :
    wholeChars pieces done = some chars ↔
      ∃ later, pieces = later.map .char ∧ chars = done.reverse ++ later := by
  induction pieces generalizing done with
  | nil => simp [wholeChars, eq_comm]
  | cons piece pieces induction =>
      cases piece with
      | stray bytes =>
          constructor
          · intro read
            cases read
          · rintro ⟨later, same, _⟩
            cases later <;> simp at same
      | char char =>
          rw [wholeChars, induction]
          constructor
          · rintro ⟨later, rfl, rfl⟩
            exact ⟨char :: later, rfl, by simp⟩
          · rintro ⟨later, same, rfl⟩
            cases later with
            | nil => simp at same
            | cons first later =>
                obtain ⟨rfl, rest⟩ : char = first ∧ pieces = later.map .char := by
                  simpa using same
                exact ⟨later, rest, by simp⟩

theorem pieces_from_done (clock bytes : List UInt8) (done : List Piece) :
    ∃ later, piecesFrom clock bytes done = done.reverse ++ later := by
  induction clock generalizing bytes done with
  | nil => exact ⟨[], by simp [piecesFrom]⟩
  | cons tick clock induction =>
      cases bytes with
      | nil => exact ⟨[], by simp [piecesFrom]⟩
      | cons first bytes =>
          rw [piecesFrom]
          cases step first bytes with
          | char char rest =>
              obtain ⟨later, same⟩ := induction rest (.char char :: done)
              exact ⟨.char char :: later, by simp [same]⟩
          | stray run rest =>
              obtain ⟨later, same⟩ := induction rest (.stray run :: done)
              exact ⟨.stray run :: later, by simp [same]⟩

theorem encode_of_pieces {clock bytes : List UInt8} {done : List Piece} {chars : List Char}
    (enough : bytes.length ≤ clock.length)
    (read : piecesFrom clock bytes done = done.reverse ++ chars.map .char) :
    encodeChars chars = bytes := by
  induction clock generalizing bytes done chars with
  | nil =>
      obtain rfl : bytes = [] := List.length_eq_zero_iff.1 (Nat.le_zero.1 enough)
      obtain rfl : chars = [] := by simpa [piecesFrom] using read
      rfl
  | cons tick clock induction =>
      cases bytes with
      | nil =>
          obtain rfl : chars = [] := by simpa [piecesFrom] using read
          rfl
      | cons first bytes =>
          rw [piecesFrom] at read
          cases stepped : step first bytes with
          | stray run rest =>
              rw [stepped] at read
              obtain ⟨later, same⟩ := pieces_from_done clock rest (.stray run :: done)
              dsimp only at read
              rw [same, List.reverse_cons, List.append_assoc, List.append_cancel_left_eq] at read
              cases chars <;> simp at read
          | char char rest =>
              rw [stepped] at read
              obtain ⟨later, same⟩ := pieces_from_done clock rest (.char char :: done)
              dsimp only at read
              rw [same, List.reverse_cons, List.append_assoc, List.append_cancel_left_eq] at read
              cases chars with
              | nil => simp at read
              | cons other chars =>
                  obtain ⟨rfl, rfl⟩ : char = other ∧ later = chars.map .char := by
                    simpa using read
                  have written := encode_of_step stepped
                  have shorter : rest.length ≤ clock.length := by
                    obtain ⟨_, _, nonempty, _⟩ := step_encode_char char []
                    have lengths := congrArg List.length written
                    rw [nonempty] at lengths
                    simp only [List.length_cons, List.length_append] at lengths enough
                    omega
                  rw [encodeChars, List.flatMap_cons, ← encodeChars, written,
                    induction shorter same]

theorem decode_eq_some_iff (bytes : List UInt8) (text : String) :
    decode bytes = some text ↔ bytes = encode text := by
  rw [decode, Option.map_eq_some_iff]
  constructor
  · rintro ⟨chars, whole, rfl⟩
    obtain ⟨later, same, rfl⟩ := (whole_chars_iff _ _ _).1 whole
    rw [encode, String.toList_ofList]
    exact (encode_of_pieces (Nat.le_refl _) same).symm
  · rintro rfl
    refine ⟨text.toList, (whole_chars_iff _ _ _).2 ⟨text.toList, ?_, rfl⟩, String.ofList_toList⟩
    exact pieces_from_encode text.toList _ [] (Nat.le_refl _)

theorem encode_injective {text other : String} (same : encode text = encode other) :
    text = other := by
  have read : decode (encode other) = some text := (decode_eq_some_iff _ _).2 same.symm
  rw [(decode_eq_some_iff _ _).2 rfl] at read
  exact (Option.some.inj read).symm

end ReconChat.Text.Utf8

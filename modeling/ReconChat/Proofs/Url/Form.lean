import ReconChat.Proofs.Text.Utf8
import ReconChat.Url.Parser

/-!
Form-urlencoding undone. Decoding what was written for a list of pairs gives the list back, in
its order and with empty and repeated names: no name or value can end its pair or begin another.
Nothing is said here about queries that were written in another way.
-/

namespace ReconChat.Url.Form

theorem hex_value_upper_hex {digit : Nat} (small : digit < 16) :
    hexValue? (upperHex digit) = some digit := by
  have all : ∀ digit : Fin 16, hexValue? (upperHex digit) = some digit.val := by decide
  exact all ⟨digit, small⟩

theorem plain_bounds {byte : UInt8} (plain : isPlain byte = true) :
    byte.toNat < 0x80 ∧ byte.toNat ≠ 0x25 ∧ byte.toNat ≠ 0x26 ∧ byte.toNat ≠ 0x2B ∧
      byte.toNat ≠ 0x3D := by
  simp only [isPlain, UInt8.le_iff_toNat_le, ← UInt8.toNat_inj, UInt8.reduceToNat,
    Bool.or_eq_true, Bool.and_eq_true, decide_eq_true_eq] at plain
  omega

theorem plain_char {byte : UInt8} (plain : isPlain byte = true) :
    (Char.ofNat byte.toNat).toNat = byte.toNat := by
  have valid : byte.toNat.isValidChar := .inl (by have := (plain_bounds plain).1; omega)
  rw [Char.ofNat, dif_pos valid]
  rfl

theorem plain_char_ne {byte : UInt8} (plain : isPlain byte = true) {char : Char}
    (different : byte.toNat ≠ char.toNat) : Char.ofNat byte.toNat ≠ char := by
  intro same
  rw [← same, plain_char plain] at different
  exact different rfl

theorem decode_encode_byte (byte : UInt8) (rest : List Char) :
    decodeBytes (encodeByte byte ++ rest) = byte :: decodeBytes rest := by
  rw [encodeByte]
  split
  · next plain =>
      have bounds := plain_bounds plain
      have notPlus : Char.ofNat byte.toNat ≠ '+' := plain_char_ne plain bounds.2.2.2.1
      have notPercent : Char.ofNat byte.toNat ≠ '%' := plain_char_ne plain bounds.2.1
      have bytes : Text.Utf8.encodeChar (Char.ofNat byte.toNat) = [byte] := by
        rw [Text.Utf8.encodeChar]
        simp only [plain_char plain, if_pos bounds.1]
        simp
      rw [List.singleton_append, decodeBytes.eq_def]
      split
      · next empty => cases empty
      · next same => exact absurd (List.cons.inj same).1 notPlus
      · next same => exact absurd (List.cons.inj same).1 notPercent
      · next same =>
          cases same
          rw [bytes, List.singleton_append]
  · split
    · next space => rw [List.singleton_append, decodeBytes, space]
    · have small := byte.toNat_lt
      have value : (byte.toNat / 16 * 16 + byte.toNat % 16).toUInt8 = byte := by
        rw [Nat.div_add_mod' byte.toNat 16]
        simp
      rw [percentByte, List.cons_append, List.cons_append, List.cons_append, List.nil_append,
        decodeBytes, hex_value_upper_hex (by omega), hex_value_upper_hex (by omega)]
      dsimp only
      rw [value]

theorem decode_bytes_encode (bytes : List UInt8) :
    decodeBytes (bytes.flatMap encodeByte) = bytes := by
  induction bytes with
  | nil => rfl
  | cons byte bytes induction => rw [List.flatMap_cons, decode_encode_byte, induction]

theorem decode_encode_text (text : String) : decodeText (encodeText text) = text := by
  rw [decodeText, encodeText, decode_bytes_encode, Text.Utf8.decode_lossy_encode]

theorem upper_hex_ne {digit : Nat} (small : digit < 16) :
    upperHex digit ≠ '&' ∧ upperHex digit ≠ '=' := by
  have all : ∀ digit : Fin 16, upperHex digit ≠ '&' ∧ upperHex digit ≠ '=' := by decide
  exact all ⟨digit, small⟩

/-- Encoded text holds neither of the characters that separate names and values. -/
theorem encode_byte_separators {byte : UInt8} {char : Char} (member : char ∈ encodeByte byte) :
    char ≠ '&' ∧ char ≠ '=' := by
  rw [encodeByte] at member
  split at member
  · next plain =>
      have bounds := plain_bounds plain
      rw [List.mem_singleton.1 member]
      exact ⟨plain_char_ne plain bounds.2.2.1, plain_char_ne plain bounds.2.2.2.2⟩
  · split at member
    · rw [List.mem_singleton.1 member]
      decide
    · have small := byte.toNat_lt
      simp only [percentByte, List.mem_cons, List.not_mem_nil, or_false] at member
      rcases member with rfl | rfl | rfl
      · decide
      · exact upper_hex_ne (by omega)
      · exact upper_hex_ne (by omega)

theorem encode_text_separators {text : String} {char : Char} (member : char ∈ encodeText text) :
    char ≠ '&' ∧ char ≠ '=' := by
  obtain ⟨byte, _, inside⟩ := List.mem_flatMap.1 member
  exact encode_byte_separators inside

theorem ampersand_not_mem_pair (pair : String × String) : '&' ∉ encodePair pair := by
  rw [encodePair, List.mem_append, List.mem_cons]
  rintro (inName | same | inValue)
  · exact (encode_text_separators inName).1 rfl
  · exact absurd same (by decide)
  · exact (encode_text_separators inValue).1 rfl

theorem decode_encode_pair (pair : String × String) : decodePair (encodePair pair) = pair := by
  have name : ∀ char ∈ encodeText pair.1, decide (char ≠ '=') = true := by
    intro char member
    exact decide_eq_true (encode_text_separators member).2
  rw [decodePair, encodePair, List.takeWhile_append_of_pos name, List.dropWhile_append_of_pos name]
  simp [decode_encode_text]

theorem encode_pair_ne_nil (pair : String × String) : encodePair pair ≠ [] := by
  simp [encodePair]

theorem split_append_separator (separator : Char) (front back piece : List Char) :
    splitAt separator (front ++ separator :: back) piece =
      splitAt separator front piece ++ splitAt separator back [] := by
  induction front generalizing piece with
  | nil => simp [splitAt]
  | cons char front induction =>
      rw [List.cons_append, splitAt, splitAt]
      split
      · rw [induction, List.cons_append]
      · exact induction _

theorem split_without_separator {separator : Char} {chars : List Char}
    (absent : separator ∉ chars) (piece : List Char) :
    splitAt separator chars piece = [piece.reverse ++ chars] := by
  induction chars generalizing piece with
  | nil => simp [splitAt]
  | cons char chars induction =>
      rw [List.mem_cons, not_or] at absent
      rw [splitAt, if_neg (fun same => absent.1 same.symm), induction absent.2]
      simp

theorem split_append_pairs {query : List Char} (written : query ≠ [])
    (pairs : List (String × String)) :
    splitAt '&' (appendPairs query pairs) [] = splitAt '&' query [] ++ pairs.map encodePair := by
  induction pairs generalizing query with
  | nil => simp [appendPairs]
  | cons pair pairs induction =>
      rw [appendPairs, if_neg (by simpa using written), induction (by simp),
        split_append_separator, split_without_separator (ampersand_not_mem_pair pair)]
      simp

theorem pieces_of_pairs (pairs : List (String × String)) :
    (splitAt '&' (appendPairs [] pairs) []).filter (!·.isEmpty) = pairs.map encodePair := by
  cases pairs with
  | nil => rfl
  | cons pair pairs =>
      have first : appendPairs [] (pair :: pairs) = appendPairs (encodePair pair) pairs := rfl
      rw [first, split_append_pairs (encode_pair_ne_nil pair),
        split_without_separator (ampersand_not_mem_pair pair)]
      simp only [List.reverse_nil, List.nil_append, List.singleton_append]
      rw [← List.map_cons, List.filter_eq_self]
      intro piece member
      obtain ⟨written, _, rfl⟩ := List.mem_map.1 member
      simpa using encode_pair_ne_nil written

theorem decode_append_pairs (pairs : List (String × String)) :
    decode (appendPairs [] pairs) = pairs := by
  rw [decode, pieces_of_pairs, List.map_map]
  calc
    pairs.map (decodePair ∘ encodePair) = pairs.map id :=
      List.map_congr_left fun pair _ => decode_encode_pair pair
    _ = pairs := List.map_id pairs

theorem append_pairs_ne_nil {query : List Char} (written : query ≠ [])
    (pairs : List (String × String)) : appendPairs query pairs ≠ [] := by
  induction pairs generalizing query with
  | nil => exact written
  | cons pair pairs induction =>
      rw [appendPairs, if_neg (by simpa using written)]
      exact induction (by simp)

theorem append_pairs_eq_nil (pairs : List (String × String)) :
    appendPairs [] pairs = [] ↔ pairs = [] := by
  cases pairs with
  | nil => simp [appendPairs]
  | cons pair pairs =>
      simpa [appendPairs] using append_pairs_ne_nil (encode_pair_ne_nil pair) pairs

end ReconChat.Url.Form

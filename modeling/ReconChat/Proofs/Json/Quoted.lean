import ReconChat.Json.Quoted

/-!
Written strings. A string is read back whatever its characters are: every escape that is written
reads as the one character it stands for. Strings that escape more than they must are not written,
and nothing is said of them.
-/

namespace ReconChat.Json

theorem hex_value_hex_digit : ∀ digit < 16, hexValue (hexDigit digit) = some digit := by decide

theorem read_quoted_escape (char : Char) (rest done : List Char) :
    readQuoted (escapeChar char ++ rest) done = readQuoted rest (char :: done) := by
  rw [escapeChar]
  split
  · next quote => rw [quote]; rfl
  split
  · next backslash => rw [backslash]; rfl
  split
  · next lineFeed => rw [lineFeed]; rfl
  split
  · next carriageReturn => rw [carriageReturn]; rfl
  split
  · next tab => rw [tab]; rfl
  split
  · next backspace =>
      rw [← Char.toNat_inj.1 (show (Char.ofNat 0x08).toNat = char.toNat from backspace.symm)]
      rfl
  split
  · next formFeed =>
      rw [← Char.toNat_inj.1 (show (Char.ofNat 0x0C).toNat = char.toNat from formFeed.symm)]
      rfl
  split
  · next control =>
      have unit : hexQuad '0' '0' (hexDigit (char.toNat / 16)) (hexDigit (char.toNat % 16)) =
          some char.toNat := by
        simp only [hexQuad, hex_value_hex_digit _ (show char.toNat / 16 < 16 by omega),
          hex_value_hex_digit _ (show char.toNat % 16 < 16 by omega),
          show hexValue '0' = some 0 from rfl, Option.bind_eq_bind, Option.bind_some]
        congr 1
        omega
      have low : isLowSurrogate char.toNat = false := by
        simp only [isLowSurrogate, Bool.and_eq_false_iff, decide_eq_false_iff_not]
        omega
      have high : isHighSurrogate char.toNat = false := by
        simp only [isHighSurrogate, Bool.and_eq_false_iff, decide_eq_false_iff_not]
        omega
      simp only [List.cons_append, List.nil_append]
      rw [readQuoted]
      simp only [unit, low, high, Char.ofNat_toNat]
      rfl
  · next quote backslash _ _ _ _ _ control =>
      rw [List.singleton_append, readQuoted.eq_def]
      dsimp only
      rw [if_neg quote, if_neg control, if_pos backslash]

theorem read_quoted_behind (chars tail done : List Char) :
    readQuoted (chars.flatMap escapeChar ++ '"' :: tail) done =
      .ok (String.ofList (done.reverse ++ chars), tail) := by
  induction chars generalizing done with
  | nil =>
      rw [List.flatMap_nil, List.nil_append, readQuoted.eq_def, List.append_nil]
      dsimp only
      rw [if_pos rfl]
  | cons char chars induction =>
      rw [List.flatMap_cons, List.append_assoc, read_quoted_escape, induction, List.reverse_cons,
        List.append_assoc, List.singleton_append]

theorem read_quoted_written (text : String) (tail : List Char) :
    readQuoted (text.toList.flatMap escapeChar ++ '"' :: tail) [] = .ok (text, tail) := by
  rw [read_quoted_behind, List.reverse_nil, List.nil_append, String.ofList_toList]

end ReconChat.Json

import Mathlib.Data.String.Basic
import ReconChat.Proofs.Selection.Balance
import ReconChat.Selection.Offsets

/-!
The scan in place never fails. It starts at an opening brace, and from there on a brace is open in
front of every character, so that there is always one to close. Its offsets are those of the cut by
which the text has a span, so that they lie between characters, and what it cuts out is the first
object. The count of braces is a natural number here; no character raises it by more than one.
-/

namespace ReconChat.Selection

open String (utf8Len)

namespace Registers

def scan (registers : Registers) : Scan where
  depth := registers.depth
  mode :=
    if registers.inString then if registers.escaped then .escaped else .quoted else .plain

theorem turn_of_open {registers : Registers} (opened : registers.depth ≠ 0)
    (flags : registers.escaped = true → registers.inString = true) (char : Char) :
    (∃ next, registers.turn char = .ok (some next) ∧ next.scan = registers.scan.step char ∧
      next.depth ≠ 0 ∧ next.depth ≤ registers.depth + 1 ∧
      (next.escaped = true → next.inString = true)) ∨
    registers.turn char = .ok none ∧ (registers.scan.step char).depth = 0 := by
  obtain ⟨depth, inString, escaped⟩ := registers
  obtain ⟨depth, rfl⟩ := Nat.exists_eq_succ_of_ne_zero opened
  -- Inside a literal the depth stays; outside only the last closing brace ends the scan.
  cases inString with
  | true =>
      left
      cases escaped with
      | true => exact ⟨⟨depth + 1, true, false⟩, by simp [turn, scan, Scan.step]⟩
      | false =>
          by_cases slash : char = '\\'
          · exact ⟨⟨depth + 1, true, true⟩, by simp [turn, scan, Scan.step, slash]⟩
          by_cases quote : char = '"'
          · exact ⟨⟨depth + 1, false, false⟩, by simp [turn, scan, Scan.step, quote]⟩
          exact ⟨⟨depth + 1, true, false⟩, by simp [turn, scan, Scan.step, slash, quote]⟩
  | false =>
      obtain rfl : escaped = false := by simpa using flags
      by_cases quote : char = '"'
      · exact .inl ⟨⟨depth + 1, true, false⟩, by simp [turn, scan, Scan.step, quote]⟩
      by_cases opening : char = '{'
      · exact .inl ⟨⟨depth + 2, false, false⟩, by simp [turn, scan, Scan.step, opening]⟩
      by_cases closing : char = '}'
      · cases depth with
        | zero => exact .inr (by simp [turn, scan, Scan.step, closing])
        | succ depth =>
            exact .inl ⟨⟨depth + 1, false, false⟩, by simp [turn, scan, Scan.step, closing]⟩
      exact .inl ⟨⟨depth + 1, false, false⟩,
        by simp [turn, scan, Scan.step, quote, opening, closing]⟩

/-- What holds of the registers behind the characters that have been read. -/
structure Sound (seen : List Char) (registers : Registers) : Prop where
  begins : seen = [] → registers = start
  opened : seen ≠ [] → registers.depth ≠ 0
  bounded : registers.depth ≤ seen.length
  flags : registers.escaped = true → registers.inString = true
  follows : registers.scan = seen.foldl Scan.step .start

theorem sound_start : Sound [] start := ⟨fun _ => rfl, by simp, Nat.le_refl 0, nofun, rfl⟩

theorem Sound.turn {seen : List Char} {registers : Registers} (sound : Sound seen registers)
    {char : Char} (opens : seen = [] → char = '{') :
    (∃ next, registers.turn char = .ok (some next) ∧ next.scan = registers.scan.step char ∧
      Sound (seen ++ [char]) next) ∨
    registers.turn char = .ok none ∧ (registers.scan.step char).depth = 0 := by
  by_cases first : seen = []
  · obtain rfl := sound.begins first
    obtain rfl := opens first
    subst first
    exact .inl ⟨⟨1, false, false⟩, rfl, rfl, by simp, by simp, Nat.le_refl 1, nofun, rfl⟩
  · rcases turn_of_open (sound.opened first) sound.flags char with
      ⟨next, turned, same, opened, higher, flags⟩ | closed
    · refine .inl ⟨next, turned, same, by simp, fun _ => opened, ?_, flags, ?_⟩
      · have bounded := sound.bounded
        rw [List.length_append, List.length_singleton]
        omega
      · rw [List.foldl_append, ← sound.follows, same]
        rfl
    · exact .inr closed

end Registers

/-- The scan of a text arrives at a character: what it has read, its registers, what is left. -/
inductive Arrives (text : List Char) : (seen : List Char) → Registers → (rest : List Char) → Prop
    where
  | start : Arrives text [] .start text
  | turn {seen rest : List Char} {registers next : Registers} {char : Char} :
      Arrives text seen registers (char :: rest) → registers.turn char = .ok (some next) →
        Arrives text (seen ++ [char]) next rest

namespace Arrives

variable {text seen rest : List Char} {registers : Registers}

theorem whole (arrives : Arrives text seen registers rest) : text = seen ++ rest := by
  induction arrives with
  | start => rfl
  | turn _ _ induction => rw [induction, List.append_assoc, List.singleton_append]

theorem opens {char : Char} (brace : ∀ first ∈ text.head?, first = '{')
    (arrives : Arrives text seen registers (char :: rest)) : seen = [] → char = '{' := by
  rintro rfl
  exact brace char (by rw [arrives.whole]; rfl)

theorem sound (brace : ∀ first ∈ text.head?, first = '{')
    (arrives : Arrives text seen registers rest) : registers.Sound seen := by
  induction arrives with
  | start => exact Registers.sound_start
  | turn earlier turned sound =>
      rcases sound.turn (earlier.opens brace) with ⟨next, same, _, later⟩ | ⟨closed, _⟩
      · rw [turned, Except.ok.injEq, Option.some.injEq] at same
        rwa [same]
      · rw [turned] at closed
        cases closed

theorem turns {char : Char} (brace : ∀ first ∈ text.head?, first = '{')
    (arrives : Arrives text seen registers (char :: rest)) :
    ∃ outcome, registers.turn char = .ok outcome := by
  rcases (arrives.sound brace).turn (arrives.opens brace) with ⟨next, turned, _⟩ | ⟨closed, _⟩
  · exact ⟨some next, turned⟩
  · exact ⟨none, closed⟩

/-- The scan ends behind what `takeBalanced` takes. The induction is on what is left to read; that
the registers are sound lets every turn go on or close the object. -/
theorem closing_offset (brace : ∀ first ∈ text.head?, first = '{')
    (arrives : Arrives text seen registers rest) :
    closingOffset registers (utf8Len seen) rest =
      .ok ((takeBalanced registers.scan rest seen.reverse).map utf8Len) := by
  induction rest generalizing seen registers with
  | nil => rfl
  | cons char rest induction =>
      have size : utf8Len (seen ++ [char]) = utf8Len seen + char.utf8Size := by simp
      rw [closingOffset, takeBalanced]
      rcases (arrives.sound brace).turn (arrives.opens brace) with
        ⟨next, turned, same, later⟩ | ⟨turned, closed⟩
      · have opened : (registers.scan.step char).depth ≠ 0 := by
          rw [← same]
          exact later.opened (by simp)
        rw [turned]
        dsimp only
        rw [if_neg opened, ← same, ← size, induction (arrives.turn turned), List.reverse_append]
        rfl
      · rw [turned]
        dsimp only
        rw [if_pos closed, ← size, Option.map_some, List.reverse_cons, List.reverse_reverse]

end Arrives

section Offsets

theorem opening_offset_absent {chars : List Char} (absent : '{' ∉ chars) (offset : Nat) :
    openingOffset offset chars = none := by
  induction chars generalizing offset with
  | nil => rfl
  | cons char chars induction =>
      have other := List.ne_of_not_mem_cons absent
      have later := List.not_mem_of_not_mem_cons absent
      rw [openingOffset, if_neg other.symm, induction later]

theorem opening_offset_before {before : List Char} (noBrace : '{' ∉ before) (rest : List Char)
    (offset : Nat) :
    openingOffset offset (before ++ '{' :: rest) = some (offset + utf8Len before) := by
  induction before generalizing offset with
  | nil => rfl
  | cons char before induction =>
      have other := List.ne_of_not_mem_cons noBrace
      have later := List.not_mem_of_not_mem_cons noBrace
      rw [List.cons_append, openingOffset, if_neg other.symm, induction later,
        String.utf8Len_cons, Nat.add_assoc, Nat.add_comm char.utf8Size]

variable {text : String} {front middle back : List Char}

theorem is_valid_of_split (whole : text.toList = front ++ back) :
    String.Pos.Raw.IsValid text ⟨utf8Len front⟩ := by
  rw [String.Pos.Raw.isValid_iff_exists_append]
  refine ⟨String.ofList front, String.ofList back, ?_, (String.rawEndPos_ofList front).symm⟩
  rw [← String.ofList_append, ← whole, String.ofList_toList]

theorem cut_of_split (whole : text.toList = front ++ middle ++ back) :
    cut text (utf8Len front) (utf8Len front + utf8Len middle) = .ok (String.ofList middle) := by
  have starts : String.Pos.Raw.IsValid text ⟨utf8Len front⟩ :=
    is_valid_of_split (whole.trans (List.append_assoc ..))
  have stops : String.Pos.Raw.IsValid text ⟨utf8Len front + utf8Len middle⟩ := by
    rw [← String.utf8Len_append]
    exact is_valid_of_split whole
  rw [cut, if_pos ⟨Nat.le_add_right .., starts, stops⟩, ← String.ofList_toList (s := text), whole,
    String.extract_of_valid]

/-- The offsets are the size of what stands in front of the first brace, and the size of the object
more. -/
theorem object_offsets_eq (text : String) :
    objectOffsets text = .ok ((firstObjectChars text.toList).map fun span =>
      let start := utf8Len (text.toList.takeWhile (· ≠ '{'))
      (start, start + utf8Len span)) := by
  rw [objectOffsets, firstObjectChars]
  by_cases brace : '{' ∈ text.toList
  · obtain ⟨before, rest, whole, noBrace⟩ := List.eq_append_cons_of_mem brace
    have tail : cut text (utf8Len before) text.utf8ByteSize =
        .ok (String.ofList ('{' :: rest)) := by
      rw [← String.utf8Len_toList, whole, String.utf8Len_append]
      exact cut_of_split (whole.trans (List.append_nil _).symm)
    have closing : closingOffset .start 0 ('{' :: rest) =
        .ok ((takeBalanced .start ('{' :: rest) []).map utf8Len) :=
      Arrives.start.closing_offset (by simp)
    rw [whole, opening_offset_before noBrace, Text.drop_while_before noBrace,
      Text.take_while_before noBrace, Nat.zero_add]
    dsimp only
    rw [tail]
    change (closingOffset .start 0 (String.ofList ('{' :: rest)).toList >>= _) = _
    rw [String.toList_ofList, closing]
    change Except.ok (Option.map _ (Option.map _ _)) = _
    rw [Option.map_map]
    rfl
  · rw [opening_offset_absent brace, Text.drop_while_absent brace]
    rfl

theorem split_of_object_offsets {start stop : Nat}
    (found : objectOffsets text = .ok (some (start, stop))) :
    ∃ before span after, IsSplit text before span after ∧ start = utf8Len before.toList ∧
      stop = start + utf8Len span.toList := by
  rw [object_offsets_eq, Except.ok.injEq, Option.map_eq_some_iff] at found
  obtain ⟨span, taken, same⟩ := found
  have object : firstObject text = some (String.ofList span) := by
    rw [firstObject, taken, Option.map_some]
  obtain ⟨before, after, split⟩ := split_of_first_object object
  obtain ⟨rfl, rfl⟩ := Prod.mk.inj same
  refine ⟨before, String.ofList span, after, split, ?_, ?_⟩
  · rw [split.before_eq]
  · rw [String.toList_ofList]

namespace IsSplit

variable {before span after : String}

theorem to_list_eq (split : IsSplit text before span after) :
    text.toList = before.toList ++ span.toList ++ after.toList := by
  rw [split.whole, String.toList_append, String.toList_append]

theorem size_pos (split : IsSplit text before span after) : 0 < utf8Len span.toList := by
  obtain ⟨inner, opens⟩ := span_opens split.balanced
  rw [opens, String.utf8Len_cons]
  exact Nat.add_pos_right _ (Char.utf8Size_pos _)

theorem ends_in_text (split : IsSplit text before span after) :
    let start := utf8Len before.toList
    let stop := start + utf8Len span.toList
    start < stop ∧ stop ≤ text.utf8ByteSize ∧
      String.Pos.Raw.IsValid text ⟨start⟩ ∧ String.Pos.Raw.IsValid text ⟨stop⟩ := by
  have whole := split.to_list_eq
  refine ⟨Nat.lt_add_of_pos_right split.size_pos, ?_, ?_, ?_⟩
  · rw [← String.utf8Len_toList, whole, String.utf8Len_append, String.utf8Len_append]
    exact Nat.le_add_right ..
  · exact is_valid_of_split (whole.trans (List.append_assoc ..))
  · rw [← String.utf8Len_append]
    exact is_valid_of_split whole

end IsSplit

theorem first_object_in_place_eq (text : String) :
    firstObjectInPlace text = .ok (firstObject text) := by
  rw [firstObjectInPlace]
  cases offsets : objectOffsets text with
  | error fault =>
      rw [object_offsets_eq] at offsets
      cases offsets
  | ok found =>
      cases found with
      | none =>
          rw [object_offsets_eq, Except.ok.injEq, Option.map_eq_none_iff] at offsets
          rw [firstObject, offsets]
          rfl
      | some ends =>
          obtain ⟨before, span, after, split, start, stop⟩ := split_of_object_offsets offsets
          have object : cut text ends.1 ends.2 = .ok span := by
            rw [stop, start, cut_of_split split.to_list_eq, String.ofList_toList]
          rw [split.first_object]
          change (cut text ends.1 ends.2 >>= _) = _
          rw [object]
          rfl

end Offsets

/-- At every turn of the scan a brace is open unless nothing has been read, a backslash is pending
only inside a literal, no more braces are open than characters have been read, and the turn does not
fail; depth and mode are those of the scan that keeps no flags. The offsets of an object are in
order, within the text and between characters, so that cutting does not fail either, and what is cut
out is the first object. -/
theorem scan_in_place_never_fails (text : String) :
    (∀ {seen : List Char} {registers : Registers} {rest : List Char},
      Arrives (text.toList.dropWhile (· ≠ '{')) seen registers rest →
        (registers.depth = 0 ↔ seen = []) ∧
        (registers.escaped = true → registers.inString = true) ∧
        registers.depth ≤ seen.length ∧
        registers.scan = seen.foldl Scan.step .start ∧
        ∀ char ∈ rest.head?, ∃ outcome, registers.turn char = .ok outcome) ∧
    (∀ {start stop : Nat}, objectOffsets text = .ok (some (start, stop)) →
      start < stop ∧ stop ≤ text.utf8ByteSize ∧
      String.Pos.Raw.IsValid text ⟨start⟩ ∧ String.Pos.Raw.IsValid text ⟨stop⟩) ∧
    firstObjectInPlace text = .ok (firstObject text) := by
  have brace : ∀ first ∈ (text.toList.dropWhile (· ≠ '{')).head?, first = '{' := by
    intro first member
    have stops := List.head?_dropWhile_not (· ≠ '{') text.toList
    rw [member] at stops
    simpa using stops
  refine ⟨?_, ?_, first_object_in_place_eq text⟩
  · intro seen registers rest arrives
    have sound := arrives.sound brace
    refine ⟨⟨?_, ?_⟩, sound.flags, sound.bounded, sound.follows, ?_⟩
    · intro closed
      by_contra read
      exact sound.opened read closed
    · intro nothing
      rw [sound.begins nothing]
      rfl
    · intro char member
      obtain ⟨later, rfl⟩ := List.head?_eq_some_iff.1 member
      exact arrives.turns brace
  · intro start stop found
    obtain ⟨before, span, after, split, rfl, rfl⟩ := split_of_object_offsets found
    exact split.ends_in_text

/-- A brace that closes nothing in front, another one in a literal, and characters of more than one
byte in front of the object and in it. -/
theorem wide_characters_keep_offsets_apart :
    let text := "\x7dé\x7b\"\x7d\\\"é\":\x7b\x7d→\x7d \x7d"
    let seen := ['{', '"', '}', '\\']
    let registers : Registers := ⟨1, true, true⟩
    Arrives (text.toList.dropWhile (· ≠ '{')) seen registers "\"é\":\x7b\x7d→\x7d \x7d".toList ∧
      registers.depth ≤ seen.length ∧ (∃ outcome, registers.turn '"' = .ok outcome) ∧
      objectOffsets text = .ok (some (3, 18)) ∧ 18 ≤ text.utf8ByteSize ∧
      String.Pos.Raw.IsValid text ⟨3⟩ ∧ String.Pos.Raw.IsValid text ⟨18⟩ ∧
      firstObjectInPlace text = .ok (some "\x7b\"\x7d\\\"é\":\x7b\x7d→\x7d") := by
  intro text seen registers
  have tail : text.toList.dropWhile (· ≠ '{') =
      seen ++ "\"é\":\x7b\x7d→\x7d \x7d".toList := by decide
  have arrives : Arrives (text.toList.dropWhile (· ≠ '{')) seen registers
      "\"é\":\x7b\x7d→\x7d \x7d".toList := by
    rw [tail]
    exact .turn (.turn (.turn (.turn .start rfl) rfl) rfl) rfl
  have offsets : objectOffsets text = .ok (some (3, 18)) := by
    rw [object_offsets_eq]
    decide
  have object : firstObject text = some "\x7b\"\x7d\\\"é\":\x7b\x7d→\x7d" := by decide
  obtain ⟨turns, ends, inPlace⟩ := scan_in_place_never_fails text
  obtain ⟨_, _, bounded, _, succeeds⟩ := turns arrives
  obtain ⟨_, within, starts, stops⟩ := ends offsets
  exact ⟨arrives, bounded, succeeds '"' (by decide), offsets, within, starts, stops,
    inPlace.trans (congrArg Except.ok object)⟩

end ReconChat.Selection

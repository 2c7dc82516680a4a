import ReconChat.Proofs.Text.FirstMark
import ReconChat.Selection.Grammar
import ReconChat.Selection.Span

/-!
The scan for the first object and the grammar of spans say the same. Literals and the items
between two braces leave the scan where it was, so that a span ends the scan at its own closing
brace and never earlier. The other way round, what the scan has taken when it stops closes all
open braces, with items in between. Nothing is said here about JSON.
-/

namespace ReconChat.Selection

/-- Text that leaves the scan outside literals and at the same depth. -/
def Passes (text : List Char) : Prop :=
  ∀ (depth : Nat) (rest taken : List Char),
    takeBalanced ⟨depth + 1, .plain⟩ (text ++ rest) taken =
      takeBalanced ⟨depth + 1, .plain⟩ rest (text.reverse ++ taken)

theorem passes_append {first second : List Char} (left : Passes first) (right : Passes second) :
    Passes (first ++ second) := by
  intro depth rest taken
  rw [List.append_assoc, left, right]
  simp

theorem take_balanced_literal_body {body : List Char} (literal : LiteralBody body)
    (depth : Nat) (rest taken : List Char) :
    takeBalanced ⟨depth + 1, .quoted⟩ (body ++ rest) taken =
      takeBalanced ⟨depth + 1, .quoted⟩ rest (body.reverse ++ taken) := by
  induction literal generalizing taken with
  | nil => rfl
  | plain notQuote notSlash _ induction =>
      simp only [List.cons_append, takeBalanced, Scan.step, notSlash, notQuote, if_false]
      rw [if_neg (Nat.succ_ne_zero depth), induction]
      simp
  | escaped _ induction =>
      simp only [List.cons_append, takeBalanced, Scan.step, if_true]
      rw [if_neg (Nat.succ_ne_zero depth), if_neg (Nat.succ_ne_zero depth), induction]
      simp

theorem literal_passes {body : List Char} (literal : LiteralBody body) :
    Passes ('"' :: (body ++ ['"'])) := by
  intro depth rest taken
  have opened : takeBalanced ⟨depth + 1, .plain⟩ ('"' :: (body ++ '"' :: rest)) taken =
      takeBalanced ⟨depth + 1, .quoted⟩ (body ++ '"' :: rest) ('"' :: taken) := by
    simp [takeBalanced, Scan.step]
  have inside := take_balanced_literal_body literal depth ('"' :: rest) ('"' :: taken)
  simp only [List.cons_append, List.append_assoc, List.nil_append]
  rw [opened, inside]
  simp [takeBalanced, Scan.step]

theorem plain_passes {char : Char} (notQuote : char ≠ '"') (notOpen : char ≠ '{')
    (notClose : char ≠ '}') : Passes [char] := by
  intro depth rest taken
  simp [takeBalanced, Scan.step, notQuote, notOpen, notClose]

/-- The induction is on the grammar; a span inside another one passes because its items do. -/
theorem items_pass {items : List Char} (balanced : Items items) : Passes items := by
  induction balanced using Items.rec (motive_1 := fun span _ => Passes span) with
  | braces _ inside =>
      intro depth rest taken
      have opened (after : List Char) :
          takeBalanced ⟨depth + 1, .plain⟩ ('{' :: after) taken =
            takeBalanced ⟨depth + 2, .plain⟩ after ('{' :: taken) := by
        simp [takeBalanced, Scan.step]
      simp only [List.cons_append, List.append_assoc, List.nil_append]
      rw [opened, inside]
      simp [takeBalanced, Scan.step]
  | nil =>
      intro depth rest taken
      rfl
  | plain notQuote notOpen notClose _ later =>
      exact passes_append (plain_passes notQuote notOpen notClose) later
  | literal body _ later =>
      simpa using passes_append (literal_passes body) later
  | span _ _ inner later => exact passes_append inner later

theorem take_balanced_opened (rest : List Char) :
    takeBalanced .start ('{' :: rest) [] = takeBalanced ⟨1, .plain⟩ rest ['{'] := by
  simp [takeBalanced, Scan.step, Scan.start]

theorem take_balanced_span {span : List Char} (balanced : Span span) (rest : List Char) :
    takeBalanced .start (span ++ rest) [] = some span := by
  obtain ⟨items⟩ := balanced
  simp only [List.cons_append, List.append_assoc, List.nil_append]
  rw [take_balanced_opened, items_pass items]
  simp [takeBalanced, Scan.step]

theorem span_opens {span : List Char} (balanced : Span span) : ∃ inner, span = '{' :: inner := by
  obtain ⟨_⟩ := balanced
  exact ⟨_, rfl⟩

theorem first_object_chars_of_split {before span after : List Char} (noBrace : '{' ∉ before)
    (balanced : Span span) : firstObjectChars (before ++ span ++ after) = some span := by
  have skipped : (before ++ (span ++ after)).dropWhile (· ≠ '{') = span ++ after := by
    obtain ⟨inner, rfl⟩ := span_opens balanced
    exact Text.drop_while_before noBrace
  rw [firstObjectChars, List.append_assoc, skipped, take_balanced_span balanced]

/-- What is left to take when a number of braces are open: items and a closing brace for each. -/
inductive Closing : Nat → List Char → Prop where
  | none : Closing 0 []
  | brace {depth : Nat} {items rest : List Char} :
      Items items → Closing depth rest → Closing (depth + 1) (items ++ '}' :: rest)

theorem closing_plain {depth : Nat} {char : Char} {rest : List Char} (notQuote : char ≠ '"')
    (notOpen : char ≠ '{') (notClose : char ≠ '}') (closing : Closing (depth + 1) rest) :
    Closing (depth + 1) (char :: rest) := by
  obtain _ | ⟨items, later⟩ := closing
  exact .brace (.plain notQuote notOpen notClose items) later

theorem closing_literal {depth : Nat} {body rest : List Char} (literal : LiteralBody body)
    (closing : Closing (depth + 1) rest) :
    Closing (depth + 1) ('"' :: (body ++ '"' :: rest)) := by
  obtain _ | ⟨items, later⟩ := closing
  simpa using Closing.brace (.literal literal items) later

theorem closing_open {depth : Nat} {rest : List Char} (closing : Closing (depth + 2) rest) :
    Closing (depth + 1) ('{' :: rest) := by
  obtain _ | ⟨inner, later⟩ := closing
  obtain _ | ⟨outer, last⟩ := later
  simpa using Closing.brace (.span (.braces inner) outer) last

def Remaining (scan : Scan) (text : List Char) : Prop :=
  match scan.mode with
  | .plain => Closing scan.depth text
  | .quoted =>
      ∃ body rest, text = body ++ '"' :: rest ∧ LiteralBody body ∧ Closing scan.depth rest
  | .escaped =>
      ∃ char body rest, text = char :: (body ++ '"' :: rest) ∧ LiteralBody body ∧
        Closing scan.depth rest

/-- One character further back: what remains before it is the character and what remains after. -/
theorem remaining_step {depth : Nat} {mode : Mode} {char : Char} {text : List Char}
    (remaining : Remaining (Scan.step ⟨depth + 1, mode⟩ char) text) :
    Remaining ⟨depth + 1, mode⟩ (char :: text) := by
  cases mode with
  | escaped =>
      obtain ⟨body, rest, rfl, literal, closing⟩ := remaining
      exact ⟨char, body, rest, rfl, literal, closing⟩
  | quoted =>
      by_cases slash : char = '\\'
      · subst slash
        obtain ⟨next, body, rest, rfl, literal, closing⟩ := remaining
        exact ⟨'\\' :: next :: body, rest, rfl, .escaped literal, closing⟩
      by_cases quote : char = '"'
      · subst quote
        exact ⟨[], text, rfl, .nil, remaining⟩
      simp only [Scan.step, slash, quote, if_false] at remaining
      obtain ⟨body, rest, rfl, literal, closing⟩ := remaining
      exact ⟨char :: body, rest, rfl, .plain quote slash literal, closing⟩
  | plain =>
      by_cases quote : char = '"'
      · subst quote
        obtain ⟨body, rest, rfl, literal, closing⟩ := remaining
        exact closing_literal literal closing
      by_cases opening : char = '{'
      · subst opening
        exact closing_open remaining
      by_cases closed : char = '}'
      · subst closed
        exact Closing.brace .nil remaining
      simp only [Scan.step, quote, opening, closed, if_false] at remaining
      exact closing_plain quote opening closed remaining

/-- When the scan reaches depth zero it is outside literals. -/
theorem mode_plain_of_depth_zero {depth : Nat} {mode : Mode} {char : Char}
    (zero : (Scan.step ⟨depth + 1, mode⟩ char).depth = 0) :
    Scan.step ⟨depth + 1, mode⟩ char = ⟨0, .plain⟩ := by
  cases mode with
  | escaped => exact absurd zero (Nat.succ_ne_zero depth)
  | quoted => grind [Scan.step]
  | plain => grind [Scan.step]

theorem remaining_of_take_balanced {depth : Nat} {mode : Mode} {chars taken span : List Char}
    (found : takeBalanced ⟨depth + 1, mode⟩ chars taken = some span) :
    ∃ piece rest, chars = piece ++ rest ∧ span = taken.reverse ++ piece ∧
      Remaining ⟨depth + 1, mode⟩ piece := by
  induction chars generalizing depth mode taken with
  | nil => simp [takeBalanced] at found
  | cons char chars induction =>
      simp only [takeBalanced] at found
      by_cases zero : (Scan.step ⟨depth + 1, mode⟩ char).depth = 0
      · rw [if_pos zero, Option.some.injEq] at found
        refine ⟨[char], chars, rfl, by simp [← found], remaining_step ?_⟩
        rw [mode_plain_of_depth_zero zero]
        exact Closing.none
      · rw [if_neg zero] at found
        cases scan : Scan.step ⟨depth + 1, mode⟩ char with
        | mk deeper next =>
            rw [scan] at found zero
            obtain ⟨deeper, rfl⟩ := Nat.exists_eq_succ_of_ne_zero zero
            obtain ⟨piece, rest, rfl, rfl, remaining⟩ := induction found
            refine ⟨char :: piece, rest, rfl, by simp, remaining_step ?_⟩
            rw [scan]
            exact remaining

theorem split_of_first_object_chars {chars span : List Char}
    (found : firstObjectChars chars = some span) :
    ∃ before after, chars = before ++ span ++ after ∧ '{' ∉ before ∧ Span span := by
  rw [firstObjectChars] at found
  by_cases brace : '{' ∈ chars
  · obtain ⟨before, rest, rfl, noBrace⟩ := List.eq_append_cons_of_mem brace
    rw [Text.drop_while_before noBrace, take_balanced_opened] at found
    obtain ⟨piece, after, rfl, rfl, remaining⟩ := remaining_of_take_balanced found
    obtain _ | ⟨items, last⟩ := remaining
    cases last
    refine ⟨before, after, ?_, noBrace, .braces items⟩
    simp
  · rw [Text.drop_while_absent brace] at found
    cases found

/-- No span begins a longer one: the scan that meets both would take both. -/
theorem span_prefix_free {span rest : List Char} (short : Span span)
    (long : Span (span ++ rest)) : rest = [] := by
  have first := take_balanced_span short rest
  have whole := take_balanced_span long []
  rw [List.append_nil, first, Option.some.injEq] at whole
  exact List.append_right_eq_self.1 whole.symm

/-- A text cut into text without an opening brace, a span, and anything. -/
structure IsSplit (text before span after : String) : Prop where
  whole : text = before ++ span ++ after
  noBrace : '{' ∉ before.toList
  balanced : Span span.toList

namespace IsSplit

variable {text before span after before' span' after' : String}

theorem first_object (split : IsSplit text before span after) : firstObject text = some span := by
  rw [firstObject, split.whole, String.toList_append, String.toList_append,
    first_object_chars_of_split split.noBrace split.balanced, Option.map_some,
    String.ofList_toList]

theorem before_eq (split : IsSplit text before span after) :
    before.toList = text.toList.takeWhile (· ≠ '{') := by
  obtain ⟨inner, opens⟩ := span_opens split.balanced
  rw [split.whole, String.toList_append, String.toList_append, List.append_assoc, opens,
    List.cons_append, Text.take_while_before split.noBrace]

theorem unique (split : IsSplit text before span after)
    (other : IsSplit text before' span' after') :
    before = before' ∧ span = span' ∧ after = after' := by
  have sameBefore : before = before' := by
    rw [← String.toList_inj, split.before_eq, other.before_eq]
  have sameSpan : span = span' := by
    have found := split.first_object
    rw [other.first_object, Option.some.injEq] at found
    exact found.symm
  subst sameBefore sameSpan
  have whole := congrArg String.toList (split.whole.symm.trans other.whole)
  simp only [String.toList_append, List.append_cancel_left_eq, String.toList_inj] at whole
  exact ⟨rfl, rfl, whole⟩

end IsSplit

theorem split_of_first_object {text span : String} (found : firstObject text = some span) :
    ∃ before after, IsSplit text before span after := by
  obtain ⟨chars, taken, rfl⟩ := Option.map_eq_some_iff.1 found
  obtain ⟨before, after, whole, noBrace, balanced⟩ := split_of_first_object_chars taken
  refine ⟨String.ofList before, String.ofList after, ?_, ?_, ?_⟩
  · rw [← String.toList_inj, whole]
    simp
  · rwa [String.toList_ofList]
  · rwa [String.toList_ofList]

/-- The first object of a text is the span by which it can be cut. There is at most one such cut,
since no span begins a longer one, and without one there is no object. -/
theorem first_object_is_only_span (text : String) :
    (∀ span, firstObject text = some span ↔ ∃ before after, IsSplit text before span after) ∧
    (firstObject text = none ↔ ¬∃ before span after, IsSplit text before span after) ∧
    (∀ {before span after before' span' after'}, IsSplit text before span after →
      IsSplit text before' span' after' → before = before' ∧ span = span' ∧ after = after') ∧
    ∀ {span rest : List Char}, Span span → Span (span ++ rest) → rest = [] := by
  have found (span : String) :
      firstObject text = some span ↔ ∃ before after, IsSplit text before span after :=
    ⟨split_of_first_object, fun ⟨_, _, split⟩ => split.first_object⟩
  refine ⟨found, ?_, fun split other => split.unique other, span_prefix_free⟩
  rw [Option.eq_none_iff_forall_ne_some]
  constructor
  · rintro nothing ⟨before, span, after, split⟩
    exact nothing span split.first_object
  · intro uncut span taken
    obtain ⟨before, after, split⟩ := (found span).1 taken
    exact uncut ⟨before, span, after, split⟩

/-- Braces in a quotation in front, in a literal and behind the span: there is one way to cut. -/
theorem quoted_braces_leave_one_cut :
    let text := "\"\x7d\" \x7b\"é\\\"\x7d\":\x7b\x7d→\x7d \x7d"
    let span := "\x7b\"é\\\"\x7d\":\x7b\x7d→\x7d"
    firstObject text = some span ∧ ∀ before span' after, IsSplit text before span' after →
      before = "\"\x7d\" " ∧ span' = span ∧ after = " \x7d" := by
  intro text span
  have items : Items "\"é\\\"\x7d\":\x7b\x7d→".toList := by
    have arrow : Items ['→'] := .plain (by decide) (by decide) (by decide) .nil
    have inner : Items ("\x7b\x7d".toList ++ ['→']) := .span (.braces .nil) arrow
    have colon : Items (':' :: ("\x7b\x7d".toList ++ ['→'])) :=
      .plain (by decide) (by decide) (by decide) inner
    have body : LiteralBody "é\\\"\x7d".toList :=
      .plain (by decide) (by decide) (.escaped (.plain (by decide) (by decide) .nil))
    exact .literal body colon
  have balanced : Span span.toList := by
    have same : span.toList = '{' :: ("\"é\\\"\x7d\":\x7b\x7d→".toList ++ ['}']) := by decide
    rw [same]
    exact .braces items
  have split : IsSplit text "\"\x7d\" " span " \x7d" := ⟨by decide, by decide, balanced⟩
  obtain ⟨found, _, unique, _⟩ := first_object_is_only_span text
  exact ⟨(found span).2 ⟨_, _, split⟩, fun before span' after other => unique other split⟩

end ReconChat.Selection

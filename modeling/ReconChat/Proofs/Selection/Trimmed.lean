import ReconChat.Proofs.Selection.Decision
import ReconChat.Proofs.Text.Blank

/-!
Replies in blanks. Neither the sentinel nor the brace at either end of an object is blank, so that
a reply decides the same without the blanks around it. Blanks inside a reply are not looked at.
-/

namespace ReconChat

namespace Text

theorem trim_chars_split (chars : List Char) :
    ∃ front back, chars = front ++ (trimChars chars ++ back) ∧
      (∀ char ∈ front, isBlank char = true) ∧ ∀ char ∈ back, isBlank char = true := by
  refine ⟨chars.takeWhile isBlank, ((chars.dropWhile isBlank).reverse.takeWhile isBlank).reverse,
    ?_, ?_, ?_⟩
  · unfold trimChars
    rw [← List.reverse_append, List.takeWhile_append_dropWhile, List.reverse_reverse,
      List.takeWhile_append_dropWhile]
  · exact fun char inside => List.mem_takeWhile_imp inside
  · exact fun char inside => List.mem_takeWhile_imp (List.mem_reverse.1 inside)

section Blanks

variable {run blanks : List Char}

theorem infix_behind_blanks {first : Char} (starts : run.head? = some first)
    (visible : isBlank first = false) (blank : ∀ char ∈ blanks, isBlank char = true)
    (chars : List Char) : run <:+: blanks ++ chars ↔ run <:+: chars := by
  induction blanks with
  | nil => rw [List.nil_append]
  | cons char blanks induction =>
      obtain ⟨here, later⟩ := List.forall_mem_cons.1 blank
      rw [List.cons_append, List.infix_cons_iff, induction later]
      apply or_iff_right
      intro begins
      obtain ⟨rest, rfl⟩ := List.head?_eq_some_iff.1 starts
      rw [(List.cons_prefix_cons.1 begins).1, here] at visible
      cases visible

theorem infix_before_blanks {last : Char} (ends : run.getLast? = some last)
    (visible : isBlank last = false) (blank : ∀ char ∈ blanks, isBlank char = true)
    (chars : List Char) : run <:+: chars ++ blanks ↔ run <:+: chars := by
  have starts : run.reverse.head? = some last := by rw [List.head?_reverse, ends]
  have reversed : ∀ char ∈ blanks.reverse, isBlank char = true :=
    fun char inside => blank char (List.mem_reverse.1 inside)
  have behind := infix_behind_blanks starts visible reversed chars.reverse
  rwa [← List.reverse_append, List.reverse_infix, List.reverse_infix] at behind

end Blanks

end Text

namespace Selection

open Text (isBlank)

theorem first_object_chars_iff (chars span : List Char) :
    firstObjectChars chars = some span ↔
      ∃ before after, chars = before ++ span ++ after ∧ '{' ∉ before ∧ Span span := by
  constructor
  · exact split_of_first_object_chars
  · rintro ⟨before, after, rfl, noBrace, balanced⟩
    exact first_object_chars_of_split noBrace balanced

theorem first_object_chars_behind_blanks {blanks : List Char}
    (blank : ∀ char ∈ blanks, isBlank char = true) (chars : List Char) :
    firstObjectChars (blanks ++ chars) = firstObjectChars chars := by
  have noBrace : ∀ char ∈ blanks, decide (char ≠ '{') = true := by
    intro char inside
    apply decide_eq_true
    rintro rfl
    cases blank '{' inside
  unfold firstObjectChars
  rw [List.dropWhile_append_of_pos noBrace]

theorem span_closes {span : List Char} (balanced : Span span) : span.getLast? = some '}' := by
  obtain ⟨_⟩ := balanced
  rw [← List.cons_append, List.getLast?_concat]

/-- No object ends in blanks. -/
theorem first_object_chars_before_blanks {blanks : List Char}
    (blank : ∀ char ∈ blanks, isBlank char = true) (chars : List Char) :
    firstObjectChars (chars ++ blanks) = firstObjectChars chars := by
  apply Option.ext
  intro span
  rw [first_object_chars_iff, first_object_chars_iff]
  constructor
  · rintro ⟨before, after, whole, noBrace, balanced⟩
    rcases List.append_eq_append_iff.1 whole with ⟨more, same, rest⟩ | ⟨inside, same, _⟩
    · have ends : (chars ++ more).getLast? = some '}' := by
        rw [← same, List.getLast?_append, span_closes balanced, Option.some_or]
      cases last : more.getLast? with
      | none =>
          rw [List.getLast?_eq_none_iff.1 last, List.append_nil] at same
          exact ⟨before, [], by rw [same, List.append_nil], noBrace, balanced⟩
      | some char =>
          rw [List.getLast?_append, last, Option.some_or, Option.some.injEq] at ends
          subst ends
          have inside : '}' ∈ blanks := by
            rw [rest]
            exact List.mem_append_left _ (List.mem_of_getLast? last)
          cases blank '}' inside
    · exact ⟨before, inside, same, noBrace, balanced⟩
  · rintro ⟨before, after, rfl, noBrace, balanced⟩
    exact ⟨before, after ++ blanks, List.append_assoc _ _ _, noBrace, balanced⟩

theorem parse_trim (reply : String) : parse (Text.trim reply) = parse reply := by
  obtain ⟨front, back, whole, frontBlank, backBlank⟩ := Text.trim_chars_split reply.toList
  have trimmed : (Text.trim reply).toList = Text.trimChars reply.toList := String.toList_ofList
  have contains : Text.containsRun reply.toList sentinel.toList =
      Text.containsRun (Text.trim reply).toList sentinel.toList := by
    have starts : sentinel.toList.head? = some 'N' := by decide
    have ends : sentinel.toList.getLast? = some 'T' := by decide
    rw [trimmed, Bool.eq_iff_iff, contains_run_iff, contains_run_iff]
    conv_lhs => rw [whole]
    rw [Text.infix_behind_blanks starts rfl frontBlank, Text.infix_before_blanks ends rfl backBlank]
  have object : firstObject reply = firstObject (Text.trim reply) := by
    unfold firstObject
    rw [trimmed]
    conv_lhs => rw [whole]
    rw [first_object_chars_behind_blanks frontBlank, first_object_chars_before_blanks backBlank]
  unfold parse
  rw [contains, object]

end Selection

end ReconChat

import ReconChat.Proofs.Json.Balance
import ReconChat.Selection.Basic

/-!
What a reply decides. A reply without the sentinel decides for something exactly if it can be cut
into text without an opening brace, an object, and anything. There is at most one such cut, and
the decision is what the tool call rules make of its object. JSON is taken as the reader of the
library reads it, its limit on nesting included.
-/

namespace ReconChat.Selection

/-- A reply cut into text without an opening brace, a text between braces that is read as an
object with the given members, and anything. -/
structure IsCut (reply : String) (before span after : List Char)
    (members : List (String × Json.Value)) : Prop where
  whole : reply.toList = before ++ span ++ after
  noBrace : '{' ∉ before
  opens : span.head? = some '{'
  closes : span.getLast? = some '}'
  object : Json.parse (String.ofList span) = .ok (.object members)

theorem contains_run_iff (chars run : List Char) :
    Text.containsRun chars run = true ↔ run <:+: chars := by
  induction chars with
  | nil => simp [Text.containsRun, List.infix_nil]
  | cons char chars induction =>
      rw [Text.containsRun, Bool.or_eq_true, List.isPrefixOf_iff_prefix, induction,
        List.infix_cons_iff]

theorem rest_eq_nil_of_closes {text rest : List Char}
    (closes : (text ++ rest).getLast? = some '}') (blank : Json.dropSpace rest = []) :
    rest = [] := by
  obtain ⟨spaces, same, all⟩ := Json.drop_space_leaves rest
  rw [blank, List.append_nil] at same
  subst same
  cases last : rest.getLast? with
  | none => exact List.getLast?_eq_none_iff.1 last
  | some char =>
      rw [List.getLast?_append, last, Option.some_or, Option.some.injEq] at closes
      have space := List.all_eq_true.1 all char (List.mem_of_getLast? last)
      simp [closes, Json.isSpace] at space

theorem read_value_of_parse {text : String} {value : Json.Value}
    (read : Json.parse text = .ok value) :
    ∃ document rest, Json.readValue Json.nestingLimit text.toList = .ok (document, rest) ∧
      Json.dropSpace rest = [] ∧ document.canonical = value := by
  obtain ⟨document, whole, same⟩ := Json.map_eq_ok read
  rw [Json.readDocument, Json.complete.eq_def] at whole
  split at whole
  · cases whole
  · next rest reading =>
      split at whole <;> cases whole
      next blank => exact ⟨_, rest, reading, blank, same⟩

theorem span_of_parse {span : List Char} {value : Json.Value} (opens : span.head? = some '{')
    (closes : span.getLast? = some '}') (read : Json.parse (String.ofList span) = .ok value) :
    Span span ∧ ∃ members, value = .object members := by
  obtain ⟨document, rest, reading, blank, same⟩ := read_value_of_parse read
  rw [String.toList_ofList] at reading
  obtain ⟨start, rfl⟩ := List.head?_eq_some_iff.1 opens
  obtain ⟨inner, members, whole, braces, rfl⟩ := Json.span_of_read_value reading
  rw [whole] at closes
  rw [rest_eq_nil_of_closes closes blank, List.append_nil] at whole
  rw [whole]
  exact ⟨braces, _, by rw [← same, Json.Value.canonical]⟩

namespace IsCut

variable {reply : String} {before span after : List Char} {members : List (String × Json.Value)}

theorem first_object (cut : IsCut reply before span after members) :
    firstObject reply = some (String.ofList span) := by
  have braces := (span_of_parse cut.opens cut.closes cut.object).1
  rw [firstObject, cut.whole, first_object_chars_of_split cut.noBrace braces]
  rfl

theorem before_eq (cut : IsCut reply before span after members) :
    before = reply.toList.takeWhile (· ≠ '{') := by
  obtain ⟨start, rfl⟩ := List.head?_eq_some_iff.1 cut.opens
  rw [cut.whole, List.append_assoc, List.cons_append, Text.take_while_before cut.noBrace]

theorem parse_eq (cut : IsCut reply before span after members)
    (noSentinel : ¬sentinel.toList <:+: reply.toList) :
    parse reply = (ToolCall.ofValue (.object members)).map some := by
  have absent : ¬Text.containsRun reply.toList sentinel.toList = true :=
    fun found => noSentinel ((contains_run_iff _ _).1 found)
  rw [parse, if_neg absent, cut.first_object]
  dsimp only
  rw [cut.object]

end IsCut

theorem cut_of_parse_ne {reply : String} (decided : parse reply ≠ .ok none) :
    ¬sentinel.toList <:+: reply.toList ∧
      ∃ before span after members, IsCut reply before span after members := by
  rw [parse] at decided
  split at decided
  · exact absurd rfl decided
  · next absent =>
      refine ⟨fun found => absent ((contains_run_iff _ _).2 found), ?_⟩
      split at decided
      · exact absurd rfl decided
      · next found =>
          split at decided
          · exact absurd rfl decided
          · next read =>
              obtain ⟨span, taken, rfl⟩ := Option.map_eq_some_iff.1 found
              obtain ⟨before, after, whole, noBrace, braces⟩ := split_of_first_object_chars taken
              have ends : span.head? = some '{' ∧ span.getLast? = some '}' := by
                obtain ⟨items⟩ := braces
                exact ⟨rfl, by rw [← List.cons_append, List.getLast?_concat]⟩
              obtain ⟨_, members, rfl⟩ := span_of_parse ends.1 ends.2 read
              exact ⟨before, span, after, members, whole, noBrace, ends.1, ends.2, read⟩

theorem render_parameters_error {members : List (String × Json.Value)}
    {table : NameTable String} {error : ToolCallError}
    (failed : ToolCall.renderParameters members table = .error error) :
    ∃ name, error = .invalidParameter name := by
  induction members generalizing table with
  | nil => cases failed
  | cons member members induction =>
      obtain ⟨name, value⟩ := member
      rw [ToolCall.renderParameters] at failed
      split at failed
      · exact induction failed
      · exact induction failed
      · cases failed
        exact ⟨name, rfl⟩

theorem of_value_object_ne_not_an_object (members : List (String × Json.Value)) :
    ToolCall.ofValue (.object members) ≠ .error .notAnObject := by
  intro failed
  rw [ToolCall.ofValue] at failed
  split at failed
  · cases failed
  · rw [ToolCall.dataOfMembers] at failed
    split at failed
    · cases failed
    · dsimp only at failed
      split at failed
      · split at failed
        · next unusable =>
            obtain ⟨name, rfl⟩ := render_parameters_error unusable
            cases failed
        · cases failed
      · cases failed

/-- A reply decides for something exactly if it has no sentinel and can be cut; the cut is
unique, its object decides, and no reply is refused for not being an object. -/
theorem parse_decided_by_unique_cut (reply : String) :
    (parse reply ≠ .ok none ↔
      ¬sentinel.toList <:+: reply.toList ∧
        ∃ before span after members, IsCut reply before span after members) ∧
    (∀ {before span after members before' span' after' members'},
      IsCut reply before span after members → IsCut reply before' span' after' members' →
        before = before' ∧ span = span' ∧ after = after' ∧ members = members') ∧
    (∀ {before span after members}, ¬sentinel.toList <:+: reply.toList →
      IsCut reply before span after members →
        parse reply = (ToolCall.ofValue (.object members)).map some) ∧
    parse reply ≠ .error .notAnObject := by
  refine ⟨⟨cut_of_parse_ne, ?_⟩, ?_, ?_, ?_⟩
  · rintro ⟨noSentinel, before, span, after, members, cut⟩
    rw [cut.parse_eq noSentinel]
    cases ToolCall.ofValue (.object members) <;> simp [Except.map]
  · intro before span after members before' span' after' members' cut other
    have sameBefore : before = before' := by rw [cut.before_eq, other.before_eq]
    have sameSpan : span = span' := by
      have found := cut.first_object
      rw [other.first_object, Option.some.injEq] at found
      exact (String.ofList_injective found).symm
    subst sameBefore sameSpan
    have whole := cut.whole
    rw [other.whole] at whole
    have object := cut.object
    rw [other.object] at object
    cases object
    exact ⟨rfl, rfl, (List.append_cancel_left whole).symm, rfl⟩
  · intro before span after members noSentinel cut
    exact cut.parse_eq noSentinel
  · intro refused
    have decided : parse reply ≠ .ok none := by
      rw [refused]
      simp
    obtain ⟨noSentinel, before, span, after, members, cut⟩ := cut_of_parse_ne decided
    rw [cut.parse_eq noSentinel] at refused
    cases called : ToolCall.ofValue (.object members) with
    | ok call =>
        rw [called] at refused
        cases refused
    | error error =>
        rw [called] at refused
        cases refused
        exact of_value_object_ne_not_an_object members called

end ReconChat.Selection

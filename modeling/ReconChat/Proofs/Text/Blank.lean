import Mathlib.Data.List.DropRight
import ReconChat.Text.Blank

/-!
Trimmed texts. Trimming a second time changes nothing, and neither do blanks around a text; what is
left has no blank at either end, and has no characters exactly if there was nothing but blanks. A
text is blank if both of its parts are. What counts as a blank is left to the table of blanks.
-/

namespace ReconChat.Text

theorem trim_chars_eq (chars : List Char) :
    trimChars chars = (chars.dropWhile isBlank).rdropWhile isBlank := rfl

theorem drop_while_trim_chars (chars : List Char) :
    (trimChars chars).dropWhile isBlank = trimChars chars := by
  rw [List.dropWhile_eq_self_iff]
  intro nonempty
  have front : trimChars chars <+: chars.dropWhile isBlank := List.rdropWhile_prefix _ _
  rw [front.getElem nonempty]
  exact List.dropWhile_get_zero_not _ _ _

theorem trim_chars_trim_chars (chars : List Char) :
    trimChars (trimChars chars) = trimChars chars := by
  rw [trim_chars_eq (trimChars chars), drop_while_trim_chars, trim_chars_eq,
    List.rdropWhile_idempotent]

@[simp] theorem trim_trim (text : String) : trim (trim text) = trim text := by
  rw [trim, trim, String.toList_ofList, trim_chars_trim_chars]

theorem trim_chars_eq_nil (chars : List Char) :
    trimChars chars = [] ↔ chars.all isBlank = true := by
  rw [trim_chars_eq, List.rdropWhile_eq_nil_iff, List.all_eq_true]
  constructor
  · intro rest
    have nothing : chars.dropWhile isBlank = [] := by
      cases later : chars.dropWhile isBlank with
      | nil => rfl
      | cons first others =>
          have stops := List.head?_dropWhile_not isBlank chars
          rw [later] at stops rest
          simp [rest first List.mem_cons_self] at stops
    exact List.dropWhile_eq_nil_iff.1 nothing
  · intro blank char member
    exact blank char ((List.dropWhile_suffix isBlank).subset member)

theorem trim_chars_ends {chars : List Char} {last : Char}
    (ends : (trimChars chars).getLast? = some last) : isBlank last = false := by
  rw [trim_chars_eq] at ends
  have nonempty : (chars.dropWhile isBlank).rdropWhile isBlank ≠ [] := by
    intro nothing
    rw [nothing] at ends
    cases ends
  rw [List.getLast?_eq_some_getLast nonempty] at ends
  have visible := List.rdropWhile_last_not isBlank _ nonempty
  rwa [Option.some.inj ends, Bool.not_eq_true] at visible

theorem trim_chars_before {blanks : List Char} (blank : ∀ char ∈ blanks, isBlank char = true)
    (chars : List Char) : trimChars (blanks ++ chars) = trimChars chars := by
  rw [trimChars, List.dropWhile_append_of_pos blank]
  rfl

theorem trim_chars_behind {blanks : List Char} (blank : ∀ char ∈ blanks, isBlank char = true)
    (chars : List Char) : trimChars (chars ++ blanks) = trimChars chars := by
  have reversed : ∀ char ∈ blanks.reverse, isBlank char = true :=
    fun char inside => blank char (List.mem_reverse.1 inside)
  cases whole : chars.all isBlank with
  | true =>
      have both : (chars ++ blanks).all isBlank = true := by
        rw [List.all_append, whole, List.all_eq_true.2 blank]
        rfl
      rw [(trim_chars_eq_nil _).2 both, (trim_chars_eq_nil _).2 whole]
  | false =>
      have some : (chars.dropWhile isBlank).isEmpty = false := by
        rw [List.isEmpty_eq_false_iff, ne_eq, List.dropWhile_eq_nil_iff, ← List.all_eq_true, whole]
        exact Bool.false_ne_true
      rw [trimChars, List.dropWhile_append, some, if_neg Bool.false_ne_true, List.reverse_append,
        List.dropWhile_append_of_pos reversed]
      rfl

theorem trim_between {front back : String} (before : allBlank front = true)
    (behind : allBlank back = true) (text : String) : trim (front ++ text ++ back) = trim text := by
  rw [trim, trim, String.toList_append, String.toList_append,
    trim_chars_behind ((all_blank_iff back).1 behind),
    trim_chars_before ((all_blank_iff front).1 before)]

theorem trim_eq_empty (text : String) : trim text = "" ↔ allBlank text = true := by
  rw [allBlank, ← trim_chars_eq_nil, trim]
  constructor
  · intro empty
    simpa using congrArg String.toList empty
  · intro nothing
    rw [nothing]

@[simp] theorem all_blank_trim (text : String) : allBlank (trim text) = allBlank text := by
  rw [Bool.eq_iff_iff, ← trim_eq_empty, ← trim_eq_empty, trim_trim]

@[simp] theorem all_blank_append (first second : String) :
    allBlank (first ++ second) = (allBlank first && allBlank second) := by
  rw [allBlank, String.toList_append, List.all_append]
  rfl

theorem not_blank_of_first (first : Char) (rest : List Char) (visible : isBlank first = false) :
    allBlank (String.ofList (first :: rest)) = false := by
  rw [allBlank, String.toList_ofList, List.all_cons, visible]
  rfl

end ReconChat.Text

import ReconChat.Proofs.Text.FirstMark
import ReconChat.Url.Parser

/-!
The parts of a URL that is read. The scheme reaches to the first colon whatever stands behind it,
and a text without a question mark has no query. Which characters a part may have is left to the
reader of that part.
-/

namespace ReconChat.Url

section Cut

variable {mark : Char} {chars front after : List Char}

theorem cut_absent (absent : mark ∉ chars) : cut mark chars = (chars, none) := by
  rw [cut, Text.take_while_absent absent, Text.drop_while_absent absent]

theorem cut_append (absent : mark ∉ front) (after : List Char) :
    cut mark (front ++ mark :: after) = (front, some after) := by
  rw [cut, Text.take_while_before absent, Text.drop_while_before absent]

theorem append_of_cut (found : cut mark chars = (front, some after)) :
    chars = front ++ mark :: after ∧ mark ∉ front := by
  by_cases present : mark ∈ chars
  · obtain ⟨before, behind, rfl, absent⟩ := List.eq_append_cons_of_mem present
    rw [cut_append absent] at found
    cases found
    exact ⟨rfl, absent⟩
  · rw [cut_absent present] at found
    cases found

end Cut

theorem mem_of_mem_clean {char : Char} {chars : List Char} (member : char ∈ clean chars) :
    char ∈ chars := by
  have inside := (List.mem_filter.1 member).1
  rw [List.mem_reverse] at inside
  have trimmed := (List.dropWhile_sublist _).mem inside
  rw [List.mem_reverse] at trimmed
  exact (List.dropWhile_sublist _).mem trimmed

theorem append_of_split_scheme {chars rest : List Char} {scheme : String}
    (found : splitScheme chars = some (scheme, rest)) :
    ∃ name, chars = name ++ ':' :: rest ∧
      ∀ other, splitScheme (name ++ ':' :: other) = some (scheme, other) := by
  rw [splitScheme] at found
  split at found
  · next first others after parts =>
      obtain ⟨whole, absent⟩ := append_of_cut parts
      split at found
      · next valid =>
          cases found
          refine ⟨first :: others, whole, ?_⟩
          intro other
          rw [splitScheme, cut_append absent]
          dsimp only
          rw [if_pos valid]
      · cases found
  · cases found

theorem split_tail_absent {chars : List Char} (noQuery : '?' ∉ chars) (noFragment : '#' ∉ chars) :
    splitTail chars = (chars, ⟨none, none⟩) := by
  rw [splitTail, cut_absent noFragment]
  dsimp only
  rw [cut_absent noQuery]

theorem query_after_slashes {scheme : String} {hierarchy : List Char} {url : Url}
    (read : afterSlashes scheme hierarchy ⟨none, none⟩ = some url) : url.query = none := by
  simp only [afterSlashes, Option.bind_eq_bind, Option.bind_eq_some_iff, Option.some.injEq] at read
  obtain ⟨authority, _, rfl⟩ := read
  rfl

theorem query_after_file_scheme {hierarchy : List Char} {url : Url}
    (read : afterFileScheme hierarchy ⟨none, none⟩ = some url) : url.query = none := by
  rw [afterFileScheme.eq_def] at read
  split at read
  · split at read
    · simp only [Option.bind_eq_bind, Option.bind_eq_some_iff, Option.some.injEq] at read
      obtain ⟨_, _, rfl⟩ := read
      rfl
    · cases read
      rfl
  · cases read
    rfl

theorem query_after_scheme {scheme : String} {rest : List Char} {url : Url}
    (noQuery : '?' ∉ rest) (noFragment : '#' ∉ rest)
    (read : afterScheme scheme rest = some url) : url.query = none := by
  rw [afterScheme, split_tail_absent noQuery noFragment] at read
  dsimp only at read
  split at read
  · exact query_after_slashes read
  · split at read
    · exact query_after_file_scheme read
    · split at read
      · exact query_after_slashes read
      · cases read
        rfl
      · cases read
        rfl

theorem query_of_parse {text : String} {url : Url} (noQuery : '?' ∉ text.toList)
    (noFragment : '#' ∉ text.toList) (read : parse text = some url) : url.query = none := by
  simp only [parse, Option.bind_eq_bind, Option.bind_eq_some_iff] at read
  obtain ⟨⟨scheme, rest⟩, found, read⟩ := read
  obtain ⟨name, whole, _⟩ := append_of_split_scheme found
  have inside : ∀ char ∈ rest, char ∈ text.toList := by
    intro char member
    refine mem_of_mem_clean ?_
    rw [whole]
    exact List.mem_append_right name (List.mem_cons_of_mem _ member)
  exact query_after_scheme (fun member => noQuery (inside _ member))
    (fun member => noFragment (inside _ member)) read

end ReconChat.Url

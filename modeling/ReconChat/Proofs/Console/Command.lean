import ReconChat.Console.Command
import ReconChat.Proofs.Text.Blank
import ReconChat.Proofs.Text.Lowercase

/-!
What a line of console input is. It is a command exactly if it is one of five words in capitals and
small letters of ASCII: no character outside ASCII makes a line a command, though some have letters
of ASCII in their lower case. Every other line that is not blank is a query, which stays one when it
is typed again. Blanks around a line never count.
-/

namespace ReconChat.Console.Command

variable {line : String}

theorem quit_words_own : ∀ word ∈ quitWords, word.toList.all Text.isOwnLetter = true := by decide

theorem help_words_own : ∀ word ∈ helpWords, word.toList.all Text.isOwnLetter = true := by decide

theorem parse_eq (line : String) :
    parse line =
      if Text.lowerAscii (Text.trim line) ∈ quitWords then .quit
      else if Text.lowerAscii (Text.trim line) ∈ helpWords then .help
      else if Text.allBlank line then .empty
      else .query (Text.trim line) := by
  have lowered := Text.lowered_lowercase (Text.trim line)
  have quits := Text.lowered_mem_iff lowered quit_words_own
  have helps := Text.lowered_mem_iff lowered help_words_own
  rw [String.ofList_toList] at quits helps
  simp only [parse, quits, helps, String.isEmpty_iff, Text.trim_eq_empty]

theorem help_words_stay : ∀ word ∈ helpWords, word ∉ quitWords := by decide

theorem empty_word (blank : Text.allBlank line = true) :
    Text.lowerAscii (Text.trim line) = "" := by
  rw [(Text.trim_eq_empty line).2 blank]
  rfl

theorem parse_quit_iff : parse line = .quit ↔ Text.lowerAscii (Text.trim line) ∈ quitWords := by
  rw [parse_eq]
  split_ifs with quits <;> simp [quits]

theorem parse_help_iff : parse line = .help ↔ Text.lowerAscii (Text.trim line) ∈ helpWords := by
  rw [parse_eq]
  split_ifs with quits helps
  · simp only [false_iff]
    exact fun helps => help_words_stay _ helps quits
  · simp [helps]
  · simp [helps]
  · simp [helps]

theorem parse_empty_iff : parse line = .empty ↔ Text.allBlank line = true := by
  rw [parse_eq]
  split_ifs with quits helps blank
  · simp only [false_iff]
    intro blank
    rw [empty_word blank] at quits
    exact absurd quits (by decide)
  · simp only [false_iff]
    intro blank
    rw [empty_word blank] at helps
    exact absurd helps (by decide)
  · simp [blank]
  · simp [blank]

theorem parse_query_iff {text : String} :
    parse line = .query text ↔
      text = Text.trim line ∧ Text.lowerAscii (Text.trim line) ∉ quitWords ++ helpWords ∧
        Text.allBlank line = false := by
  rw [parse_eq, List.mem_append, not_or]
  split_ifs with quits helps blank
  · simp [quits]
  · simp [helps]
  · simp [blank]
  · simp [quits, helps, blank, eq_comm]

theorem parse_trim (line : String) : parse (Text.trim line) = parse line := by
  rw [parse_eq, parse_eq, Text.trim_trim, Text.all_blank_trim]

/-- A character outside ASCII is one of a query, unless it is a blank in front or behind. -/
theorem parse_of_above {char : Char} (member : char ∈ (Text.trim line).toList)
    (above : 0x80 ≤ char.toNat) : parse line = .query (Text.trim line) := by
  refine parse_query_iff.2 ⟨rfl, ?_, ?_⟩
  · intro known
    have own : (Text.lowerAscii (Text.trim line)).toList.all Text.isOwnLetter = true := by
      rcases List.mem_append.1 known with quits | helps
      · exact quit_words_own _ quits
      · exact help_words_own _ helps
    have inside : char ∈ (Text.lowerAscii (Text.trim line)).toList := by
      rw [Text.lowerAscii, String.toList_ofList]
      refine List.mem_map.2 ⟨char, member, Text.to_lower_of_no_capital ?_⟩
      omega
    have ascii := Text.ascii_of_own_letter (List.all_eq_true.1 own char inside)
    exact Nat.not_le_of_lt ascii above
  · rw [Bool.eq_false_iff]
    intro blank
    rw [(Text.trim_eq_empty line).2 blank] at member
    cases member

theorem query_ends_visible {text : String} {last : Char} (asked : parse line = .query text)
    (ends : text.toList.head? = some last ∨ text.toList.getLast? = some last) :
    Text.isBlank last = false := by
  obtain ⟨rfl, _⟩ := parse_query_iff.1 asked
  rw [Text.trim, String.toList_ofList] at ends
  rcases ends with first | final
  · have stops := List.head?_dropWhile_not Text.isBlank (Text.trimChars line.toList)
    rw [Text.drop_while_trim_chars, first] at stops
    simpa using stops
  · exact Text.trim_chars_ends final

/-- A line is a command exactly if it is one of the words in capitals and small letters of ASCII,
and empty exactly if it is blank. Any other line is a query, which is what is left of it without the
blanks around it and is the same query again. Nothing else in a line makes it a command: neither a
character outside ASCII, nor the form that a sigma takes, nor blanks around it. -/
theorem commands_are_words_of_ascii (line : String) :
    (parse line = .quit ↔ Text.lowerAscii (Text.trim line) ∈ ["quit", "exit", "bye"]) ∧
    (parse line = .help ↔ Text.lowerAscii (Text.trim line) ∈ ["help", "capabilities"]) ∧
    (parse line = .empty ↔ Text.allBlank line = true) ∧
    (∀ text, parse line = .query text ↔
      text = Text.trim line ∧
        Text.lowerAscii (Text.trim line) ∉ ["quit", "exit", "bye", "help", "capabilities"] ∧
        Text.allBlank line = false) ∧
    (∀ text, parse line = .query text →
      text ≠ "" ∧ parse text = .query text ∧
        ∀ last, text.toList.head? = some last ∨ text.toList.getLast? = some last →
          Text.isBlank last = false) ∧
    ((∃ char ∈ (Text.trim line).toList, 0x80 ≤ char.toNat) →
      parse line = .query (Text.trim line)) ∧
    (∀ folded, Text.Lowered (Text.trim line).toList folded →
      (String.ofList folded ∈ ["quit", "exit", "bye"] ↔ parse line = .quit) ∧
      (String.ofList folded ∈ ["help", "capabilities"] ↔ parse line = .help) ∧
      (folded = [] ↔ parse line = .empty)) ∧
    ∀ front back, Text.allBlank front = true → Text.allBlank back = true →
      parse (front ++ line ++ back) = parse line := by
  refine ⟨parse_quit_iff, parse_help_iff, parse_empty_iff, fun _ => parse_query_iff, ?_, ?_, ?_, ?_⟩
  · intro text asked
    refine ⟨?_, ?_, fun last => query_ends_visible asked⟩
    · obtain ⟨rfl, _, speaks⟩ := parse_query_iff.1 asked
      intro nothing
      rw [(Text.trim_eq_empty line).1 nothing] at speaks
      cases speaks
    · obtain ⟨rfl, _⟩ := parse_query_iff.1 asked
      rw [parse_trim, asked]
  · rintro ⟨char, member, above⟩
    exact parse_of_above member above
  · intro folded lowered
    refine ⟨(Text.lowered_mem_iff lowered quit_words_own).trans parse_quit_iff.symm,
      (Text.lowered_mem_iff lowered help_words_own).trans parse_help_iff.symm, ?_⟩
    rw [Text.lowered_eq_iff lowered List.all_nil, List.map_eq_nil_iff, parse_empty_iff,
      ← Text.trim_eq_empty, ← String.toList_eq_nil_iff]
  · intro front back before behind
    rw [← parse_trim, Text.trim_between before behind, parse_trim]

/-- A capital whose lower case begins with an i, a sigma in its final form, and a command in odd
blanks. -/
theorem dotted_capital_is_query :
    parse "QU\u0130T\n" = .query "QU\u0130T" ∧ parse "QU\u0130T" = .query "QU\u0130T" ∧
      String.ofList ['b', 'ς'] ∉ ["quit", "exit", "bye"] ∧
      parse ("\u3000" ++ "ByE" ++ "\u0085\t") = .quit := by
  obtain ⟨_, _, _, _, again, foreign, _⟩ := commands_are_words_of_ascii "QU\u0130T\n"
  have asked : parse "QU\u0130T\n" = .query "QU\u0130T" :=
    foreign ⟨'\u0130', by decide, by decide⟩
  obtain ⟨_, _, _, _, _, _, folded, _⟩ := commands_are_words_of_ascii "bΣ"
  obtain ⟨quits, _, _, _, _, _, _, between⟩ := commands_are_words_of_ascii "ByE"
  have leaves : parse "ByE" = .quit := quits.2 (by decide)
  have sigma := (folded ['b', 'ς'] (.cons (.finalSigma .nil))).1
  refine ⟨asked, (again _ asked).2.1, ?_, ?_⟩
  · rw [sigma]
    decide +kernel
  · rw [between "\u3000" "\u0085\t" (by decide) (by decide), leaves]

end ReconChat.Console.Command

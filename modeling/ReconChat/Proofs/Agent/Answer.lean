import ReconChat.Proofs.Agent.Course
import ReconChat.Proofs.Text.Blank

/-!
Blank answers. Everything that the chatbot says of its own has words in it, and so has everything
that it takes from the model as the text of a generation. An answer from the documentation is
taken from inside such a text as it stands there: it is the only one that can be blank, and it is
blank exactly if the model wrote it so. Whether an answer is of any use is not said here.
-/

namespace ReconChat

open Http (Network Response)

namespace Gemini.Client

theorem not_blank_of_read_response {response : Response} {text : String}
    (read : readResponse response = .ok text) : Text.allBlank text = false := by
  rw [readResponse] at read
  split at read
  · cases read
  · split at read
    · cases read
    · split at read
      · cases read
      · next generation _ =>
          split at read
          · cases read
          · dsimp only at read
            split at read
            · cases read
            · next some =>
                cases read
                rw [Generation.text] at some ⊢
                rw [String.isEmpty_iff, Text.trim_eq_empty] at some
                rwa [Text.all_blank_trim, ← Bool.not_eq_true]

theorem not_blank_of_writes {client : Client} {network : Network} {prompt text : String}
    (written : client.writes network prompt = .ok text) : Text.allBlank text = false := by
  rw [writes, readResult.eq_def] at written
  split at written
  · cases written
  · exact not_blank_of_read_response written

end Gemini.Client

namespace Agent

variable {gemini : Gemini.Client} {recon : Recon.Client} {documents : Documents} {query : String}
  {network : Network}

theorem not_blank_written_or {otherwise : Gemini.GenerationError → String}
    (words : ∀ error, Text.allBlank (otherwise error) = false) (prompt : String) :
    Text.allBlank (writtenOr otherwise (gemini.writes network prompt)) = false := by
  cases written : gemini.writes network prompt with
  | error error => exact words error
  | ok text => exact Gemini.Client.not_blank_of_writes written

theorem not_blank_failure_answer (words : String) :
    Text.allBlank (errorOpening ++ " " ++ words) = false := by
  have opening : Text.allBlank errorOpening = false := Text.not_blank_of_first 'I' _ rfl
  rw [Text.all_blank_append, Text.all_blank_append, opening]
  rfl

set_option maxRecDepth 4000 in
theorem not_blank_apology : Text.allBlank Gemini.Client.fallbackApology = false :=
  Text.not_blank_of_first 'I' _ rfl

theorem not_blank_analysis_error (error : Gemini.GenerationError) :
    Text.allBlank ("I encountered an error while analyzing the data: " ++ error.message) =
      false := by
  have opening : Text.allBlank "I encountered an error while analyzing the data: " = false :=
    Text.not_blank_of_first 'I' _ rfl
  rw [Text.all_blank_append, opening, Bool.false_and]

/-- What the first exchange of a query decides, if the model wrote anything. -/
def decision (gemini : Gemini.Client) (documents : Documents) (query : String)
    (network : Network) :
    Except Gemini.GenerationError (Except ToolCallError (Option ToolCall)) :=
  (selectionReply gemini documents query network).map Selection.parse

theorem decision_of_reply {reply : String}
    (written : selectionReply gemini documents query network = .ok reply) :
    decision gemini documents query network = .ok (Selection.parse reply) := by
  rw [decision, written]
  rfl

/-- The answer of a course is blank exactly if it is an answer from the documentation and was
written blank. -/
theorem course_answer_blank_iff {orders : List Http.Order} {answer : String}
    (course : Course gemini recon documents query network orders answer) :
    Text.allBlank answer = true ↔ documents.hasSchema = true ∧ ∃ text reasoning,
      decision gemini documents query network =
        .ok (.ok (some (.documentation (some text) reasoning))) ∧ Text.allBlank text = true := by
  cases course with
  | unloaded missing =>
      have words : Text.allBlank schemaNotLoaded = false := Text.not_blank_of_first 'E' _ rfl
      simp [words, missing]
  | invalid _ written decided =>
      rw [decision_of_reply written, decided, not_blank_failure_answer]
      simp
  | documented loaded written decided =>
      rename_i answer reasoning
      rw [decision_of_reply written, decided]
      cases answer with
      | none =>
          have words : Text.allBlank documentationUnavailable = false :=
            Text.not_blank_of_first 'D' _ rfl
          simp [words]
      | some text => simp [loaded]
  | outOfScope _ nothing =>
      rw [not_blank_written_or fun _ => not_blank_apology]
      cases written : selectionReply gemini documents query network with
      | error error => simp [decision, written, Except.map]
      | ok reply =>
          rw [written] at nothing
          rw [decision_of_reply written, show Selection.parse reply = .ok none from nothing]
          simp
  | unanswered _ written decided _ =>
      rw [decision_of_reply written, decided, not_blank_failure_answer]
      simp
  | summarized _ written decided _ =>
      rw [decision_of_reply written, decided, not_blank_written_or not_blank_analysis_error]
      simp

/-- A query has a blank answer exactly if the model decides for an answer from the documentation
and leaves it blank; an answer that is absent is replaced. -/
theorem answer_blank_iff_documented_blank (settings : Settings) (apiKey : String)
    (documents : Documents) (query : String) (network : Network) :
    let gemini := Gemini.Client.ofSettings settings.gemini apiKey
    let decided := decision gemini documents query network
    let answer := ((live settings apiKey documents).processQuery query network).1
    (Text.allBlank answer = true ↔ documents.hasSchema = true ∧ ∃ text reasoning,
      decided = .ok (.ok (some (.documentation (some text) reasoning))) ∧
        Text.allBlank text = true) ∧
    (documents.hasSchema = true → ∀ reasoning,
      decided = .ok (.ok (some (.documentation none reasoning))) →
        answer = documentationUnavailable) := by
  intro gemini decided answer
  obtain ⟨orders, given, course, run⟩ := process_query_course gemini
    (Recon.Client.ofSettings settings.recon) documents query network
  have same : answer = given := congrArg Prod.fst run
  rw [same]
  refine ⟨course_answer_blank_iff course, ?_⟩
  intro loaded reasoning absent
  change decision gemini documents query network = _ at absent
  cases written : selectionReply gemini documents query network with
  | error error =>
      rw [decision, written] at absent
      cases absent
  | ok reply =>
      rw [decision_of_reply written] at absent
      exact (course_unique course (.documented loaded written (Except.ok.inj absent))).2

/-- The model leaves the documentation's answer blank, and nothing is put in its place. -/
theorem blank_documentation_answer_stays :
    let settings : Settings :=
      { Settings.standard with gemini := ⟨none, "m", "http://gemini", none⟩ }
    let generation := "\x7b\"candidates\":[\x7b\"content\":\x7b\"parts\":[\x7b\"text\":" ++
      "\"\x7b\\\"type\\\":\\\"documentation\\\",\\\"answer\\\":\\\"\\\"\x7d\"\x7d]\x7d\x7d]\x7d"
    let network : Network :=
      ⟨fun _ => true, [.response ⟨200, none, none, Text.Utf8.encode generation, true⟩], []⟩
    let answer := ((live settings "key" ⟨"openapi", ""⟩).processQuery "q" network).1
    Text.trim answer = "" := by
  decide +kernel

end Agent

end ReconChat

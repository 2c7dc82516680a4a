import ReconChat.Proofs.Json.Spelling
import ReconChat.Proofs.Selection.Decision
import ReconChat.Proofs.ToolCall.Members

/-!
The parameters of a data call as its reply spells them. A parameter of the call is what the last
member of its name says in the reply: a string itself, a boolean its word, an integer its literal,
and null nothing. Values of any other kind are left out.
-/

namespace ReconChat

namespace Json.Spelling

/-- What a value says as a parameter; a number says its literal. -/
def said (spelling : Spelling) : Option String :=
  match spelling.value with
  | .string text => some text
  | .bool true => some "true"
  | .bool false => some "false"
  | .number _ => some (String.ofList spelling.text)
  | _ => none

def isPlain (spelling : Spelling) : Bool :=
  match spelling.value with
  | .string _ => true
  | .bool _ => true
  | .null => true
  | .number _ => isIntegerLiteral spelling.text
  | _ => false

end Json.Spelling

namespace Selection

/-- The members of the parameters in the object of a reply, as they are spelled. -/
def spelledParameters (reply : String) : Option (List (String × Json.Spelling)) := do
  let object ← firstObject reply
  let members ← Json.spelledMembers (Json.nestingLimit - 1) object.toList
  let parameters ← latest? "parameters" members
  Json.spelledMembers (Json.nestingLimit - 2) parameters.chars

theorem rendered_text_of_plain {depth : Nat} {spelling : Json.Spelling}
    (reading : Json.Reading depth spelling.chars spelling.value spelling.rest)
    (plain : spelling.isPlain = true) :
    ToolCall.renderedText spelling.value.canonical = spelling.said := by
  obtain ⟨value, chars, rest⟩ := spelling
  cases value with
  | null => rfl
  | bool value => cases value <;> rfl
  | string text => rfl
  | number number =>
      have whole := Json.number_text_append reading
      rw [← whole] at reading
      have written := Json.chars_of_integer_literal plain reading
      exact congrArg some (congrArg String.ofList written)
  | array items => cases plain
  | object members => cases plain

theorem object_of_spelled_members (depth : Nat) {chars rest : List Char} {value : Json.Value}
    {spelled : List (String × Json.Spelling)}
    (reading : Json.Reading (depth + 1) chars value rest)
    (members : Json.spelledMembers depth chars = some spelled) :
    value = .object (Json.plainMembers spelled) := by
  cases reading with
  | object folded =>
      obtain ⟨others, same, forgotten⟩ := Json.spelled_members_of_reading (.object folded)
      rw [members] at same
      cases same
      rw [forgotten]
  | natural digit _ =>
      rw [Json.spelledMembers.eq_def] at members
      split at members
      · next same =>
          cases same
          exact absurd digit (by decide)
      · cases members
  | _ => cases members

theorem object_of_data_call {reply : String} {call : DataCall}
    (decided : parse reply = .ok (some (.data call))) :
    ∃ start document rest, firstObject reply = some (String.ofList ('{' :: start)) ∧
      Json.Reading Json.nestingLimit ('{' :: start) document rest ∧
      ToolCall.ofValue document.canonical = .ok (.data call) := by
  have decides : parse reply ≠ .ok none := by
    rw [decided]
    simp
  obtain ⟨noSentinel, before, span, after, members, cut⟩ := cut_of_parse_ne decides
  obtain ⟨document, rest, read, _, canonical⟩ := read_value_of_parse cut.object
  have found := cut.first_object
  rw [cut.parse_eq noSentinel] at decided
  obtain ⟨start, rfl⟩ := List.head?_eq_some_iff.1 cut.opens
  rw [String.toList_ofList] at read
  have reading := Json.reading_of_read_value read
  rw [Json.dropSpace, if_neg (by decide)] at reading
  refine ⟨start, document, rest, found, reading, ?_⟩
  rw [canonical]
  cases called : ToolCall.ofValue (.object members) with
  | error error =>
      rw [called] at decided
      cases decided
  | ok result =>
      rw [called] at decided
      cases decided
      rfl

theorem parameters_of_spelled {reply : String} {call : DataCall}
    {spelled : List (String × Json.Spelling)}
    (decided : parse reply = .ok (some (.data call)))
    (parameters : spelledParameters reply = some spelled) :
    ToolCall.renderParameters (Json.Value.canonicalMembers (Json.plainMembers spelled) []) .empty =
        .ok call.parameters ∧
      ∀ member ∈ spelled, ∃ depth,
        Json.Reading depth member.2.chars member.2.value member.2.rest := by
  obtain ⟨start, document, rest, found, reading, called⟩ := object_of_data_call decided
  rw [spelledParameters, found] at parameters
  simp only [Option.bind_eq_bind, Option.bind_some, String.toList_ofList,
    Option.bind_eq_some_iff] at parameters
  obtain ⟨members, object, parameter, last, inner⟩ := parameters
  have outerValue := object_of_spelled_members (Json.nestingLimit - 1) reading object
  have innerReading := Json.reading_of_spelled_members object _ (mem_of_latest last)
  have innerValue : parameter.value = .object (Json.plainMembers spelled) :=
    object_of_spelled_members (Json.nestingLimit - 2) innerReading inner
  subst outerValue
  rw [Json.Value.canonical] at called
  have rendered := ToolCall.parameters_of_value called
  rw [ToolCall.parameterMembers, Json.Value.latest_canonical_members _ _ List.Pairwise.nil,
    Json.plainMembers, latest_map, last] at rendered
  simp only [Option.map_some, Option.some_or, innerValue, Json.Value.canonical] at rendered
  exact ⟨rendered, fun member inside => ⟨_, Json.reading_of_spelled_members inner member inside⟩⟩

theorem latest_parameter {reply : String} {call : DataCall}
    {spelled : List (String × Json.Spelling)}
    (decided : parse reply = .ok (some (.data call)))
    (parameters : spelledParameters reply = some spelled)
    (plain : ∀ member ∈ spelled, member.2.isPlain = true) (name : String) :
    latest? name call.parameters.entries = (latest? name spelled).bind Json.Spelling.said := by
  obtain ⟨rendered, readings⟩ := parameters_of_spelled decided parameters
  have increase : NamesIncrease (Json.Value.canonicalMembers (Json.plainMembers spelled) []) :=
    Json.Value.canonical_members_increase _ List.Pairwise.nil
  rw [ToolCall.latest_render_parameters increase rendered,
    Json.Value.latest_canonical_members _ _ List.Pairwise.nil, Json.plainMembers, latest_map]
  cases last : latest? name spelled with
  | none => rfl
  | some spelling =>
      obtain ⟨_, reading⟩ := readings _ (mem_of_latest last)
      have same := rendered_text_of_plain reading (plain _ (mem_of_latest last))
      simp only [Option.map_some, Option.some_or, Option.bind_some, same]
      exact Option.or_none

end Selection

end ReconChat

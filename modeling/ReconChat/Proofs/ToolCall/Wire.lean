import ReconChat.Proofs.Json.Tagged
import ReconChat.ToolCall.Wire

/-!
Tool calls written and read back. Every call is decoded from what it is encoded as, with any
parameters and with its answer or reasoning absent or not, whether or not its endpoint and method
are ones that a call should have.
-/

namespace ReconChat

open Json (Value ReadsBack present)

def textMembers (pairs : List (String × String)) : List (String × Value) :=
  pairs.map fun (name, text) => (name, .string text)

theorem text_entries_of_text_members (pairs : List (String × String)) :
    textEntries? (textMembers pairs) = some pairs := by
  induction pairs with
  | nil => rfl
  | cons pair pairs induction =>
      change (textEntries? (textMembers pairs)).map _ = _
      rw [induction]
      rfl

theorem parameters_of_parameters_value (parameters : NameTable String) :
    parameters? (some (parametersValue parameters)) = some parameters := by
  change (textEntries? (textMembers parameters.entries)).map NameTable.ofList = some parameters
  rw [text_entries_of_text_members, Option.map_some, NameTable.of_list_entries]

theorem once_of_nodup (name : String) {members : List (String × Value)}
    (nodup : (members.map (·.1)).Nodup) : once? name members = some (latest? name members) := by
  induction members with
  | nil => rfl
  | cons member members induction =>
      obtain ⟨other, value⟩ := member
      rw [List.map_cons, List.nodup_cons] at nodup
      rw [once?, List.filter_cons, latest_cons]
      by_cases same : name = other
      · subst same
        have behind : ∀ pair ∈ members, name ≠ pair.1 := fun pair member same =>
          nodup.1 (List.mem_map.2 ⟨pair, member, same.symm⟩)
        have alone : members.filter (·.1 = name) = [] :=
          List.filter_eq_nil_iff.2 fun pair member =>
            by simpa using Ne.symm (behind pair member)
        rw [if_pos (decide_eq_true rfl), alone, latest_eq_none_iff.2 behind, if_pos rfl]
        rfl
      · rw [if_neg (by simpa using Ne.symm same), if_neg same, Option.or_none]
        exact induction nodup.2

theorem once_present {name : String} {value : Option Value}
    {entries : List (String × Option Value)} (nodup : (entries.map (·.1)).Nodup)
    (member : (name, value) ∈ entries) : once? name (present entries) = some value := by
  rw [once_of_nodup name (nodup.sublist (Json.present_names_sublist entries)),
    Json.latest_present nodup member]

theorem optional_text_of_text (text : Option String) :
    optionalText? (text.map .string) = some text := by
  cases text <;> rfl

theorem text_members_fit (depth : Nat) (pairs : List (String × String)) :
    (Value.object (textMembers pairs)).Fits (depth + 1) := by
  refine .object fun member inside => ?_
  obtain ⟨pair, _, rfl⟩ := List.mem_map.1 inside
  exact .string pair.2

namespace DataCall

def fieldValues (call : DataCall) : List (String × Option Value) :=
  [("endpoint", some (.string call.endpoint)), ("method", some (.string call.method)),
    ("parameters", some (parametersValue call.parameters)),
    ("reasoning", call.reasoning.map .string)]

theorem members_eq (call : DataCall) : call.members = present call.fieldValues := by
  obtain ⟨endpoint, method, parameters, reasoning⟩ := call
  cases reasoning <;> rfl

theorem reads_back (call : DataCall) : ReadsBack shape call.toValue := by
  have parameters : ReadsBack Json.Shape.textMap (parametersValue call.parameters) := by
    refine Json.Shape.reads_text_map fun member inside => ?_
    obtain ⟨pair, _, rfl⟩ := List.mem_map.1 inside
    exact ⟨pair.2, rfl⟩
  rw [toValue, members_eq]
  exact Json.Shape.reads_record (by decide)
    (.cons (.written (Json.Shape.reads_text call.endpoint))
      (.cons (.written (Json.Shape.reads_text call.method))
        (.cons (.written parameters)
          (.cons (Json.Shape.reads_defaulted Json.Shape.reads_optional_text _ _) .nil))))

theorem of_body_members (call : DataCall) : ofBody (.object call.members) = some call := by
  have once (name : String) (value : Option Value) (member : (name, value) ∈ call.fieldValues) :
      once? name (present call.fieldValues) = some value :=
    once_present (show ["endpoint", "method", "parameters", "reasoning"].Nodup by decide) member
  rw [members_eq, ofBody, once "endpoint" (some (.string call.endpoint)) (by simp [fieldValues]),
    once "method" (some (.string call.method)) (by simp [fieldValues]),
    once "parameters" (some (parametersValue call.parameters)) (by simp [fieldValues]),
    once "reasoning" (call.reasoning.map .string) (by simp [fieldValues])]
  change ofFields (some (.string call.endpoint)) (some (.string call.method))
    (some (parametersValue call.parameters)) (call.reasoning.map .string) = some call
  rw [ofFields, parameters_of_parameters_value, optional_text_of_text]
  rfl

theorem decode_encode (call : DataCall) : decode call.encode = .ok call :=
  Json.Shape.decode_compact call.reads_back call.of_body_members

end DataCall

namespace ToolCall

def tag : ToolCall → String
  | .data _ => "data_call"
  | .documentation _ _ => "documentation"

def bodyMembers : ToolCall → List (String × Value)
  | .data call => call.members
  | .documentation answer reasoning =>
      present [("answer", answer.map .string), ("reasoning", reasoning.map .string)]

theorem to_value_eq (call : ToolCall) :
    call.toValue = .object (("type", .string call.tag) :: call.bodyMembers) := by
  cases call with
  | data call => rfl
  | documentation answer reasoning => cases answer <;> cases reasoning <;> rfl

theorem tag_known (call : ToolCall) : call.tag ∈ tags := by
  cases call with
  | data => exact .head _
  | documentation => exact .tail _ (.head _)

theorem mem_body_members (call : ToolCall) {member : String × Value}
    (inside : member ∈ call.bodyMembers) :
    member.1 ≠ "type" ∧ member.2.Fits (Json.nestingLimit - 1) := by
  obtain ⟨name, value⟩ := member
  change name ≠ "type" ∧ value.Fits (Json.nestingLimit - 1)
  have text {given : Option String} (same : some value = given.map .string) :
      value.Fits (Json.nestingLimit - 1) := by
    obtain ⟨text, _, rfl⟩ := Option.map_eq_some_iff.1 same.symm
    exact .string text
  cases call with
  | data call =>
      rw [bodyMembers, DataCall.members_eq, Json.mem_present] at inside
      simp only [DataCall.fieldValues, List.mem_cons, Prod.mk.injEq, Option.some.injEq] at inside
      rcases inside with ⟨rfl, rfl⟩ | ⟨rfl, rfl⟩ | ⟨rfl, rfl⟩ | ⟨rfl, same⟩ | nothing
      · exact ⟨by decide, .string call.endpoint⟩
      · exact ⟨by decide, .string call.method⟩
      · exact ⟨by decide, text_members_fit _ call.parameters.entries⟩
      · exact ⟨by decide, text same⟩
      · cases nothing
  | documentation answer reasoning =>
      rw [bodyMembers, Json.mem_present] at inside
      simp only [List.mem_cons, Prod.mk.injEq] at inside
      rcases inside with ⟨rfl, same⟩ | ⟨rfl, same⟩ | nothing
      · exact ⟨by decide, text same⟩
      · exact ⟨by decide, text same⟩
      · cases nothing

theorem of_tagged_body (call : ToolCall) :
    ofTagged ⟨call.tag, .object call.bodyMembers⟩ = some call := by
  cases call with
  | data call =>
      change (DataCall.ofBody (.object call.members)).map ToolCall.data = some (.data call)
      rw [call.of_body_members]
      rfl
  | documentation answer reasoning =>
      have nodup : ["answer", "reasoning"].Nodup := by decide
      have answers : once? "answer" (bodyMembers (.documentation answer reasoning)) =
          some (answer.map .string) := once_present nodup (.head _)
      have reasonings : once? "reasoning" (bodyMembers (.documentation answer reasoning)) =
          some (reasoning.map .string) := once_present nodup (.tail _ (.head _))
      change documentationOfBody (.object (bodyMembers (.documentation answer reasoning))) =
        some (.documentation answer reasoning)
      rw [documentationOfBody, answers, reasonings]
      simp [optional_text_of_text]

theorem decode_encode (call : ToolCall) : decode call.encode = .ok call := by
  have read := Json.read_tagged_written call.tag_known
    (fun _ inside => (call.mem_body_members inside).1)
    (fun _ inside => (call.mem_body_members inside).2) []
  rw [← to_value_eq] at read
  rw [decode, encode, Value.compact, String.toList_ofList, read]
  dsimp only
  rw [of_tagged_body]
  rfl

end ToolCall

end ReconChat

import ReconChat.Json.Reader
import ReconChat.Proofs.Text.Blank
import ReconChat.Proofs.ToolCall.Members
import ReconChat.Proofs.ToolCall.Wire

/-!
The two readers of tool calls. An object that is strictly decoded as a call is read loosely as the
normal form of that call, or refused for the endpoint or the method that keeps the call from having
one. Calls that are read loosely are in normal form, and so both readers give them back. Texts that
only the loose reader accepts are left out, as are calls written as lists.
-/

namespace ReconChat

open Json (Value)

theorem latest_of_once {name : String} {members : List (String × Value)} {value : Option Value}
    (once : once? name members = some value) : latest? name members = value := by
  rw [← latest_filter (fun pair => pair.1 = name) (fun _ => decide_eq_true rfl) members]
  rw [once?] at once
  split at once
  · next nothing =>
      cases once
      rw [nothing]
      rfl
  · next other found only =>
      cases once
      have named : other = name := by
        have inside : (other, found) ∈ members.filter (·.1 = name) := by
          rw [only]
          exact List.mem_cons_self
        simpa using (List.mem_filter.1 inside).2
      rw [only, named, latest?]
      simp [latest?]
  · cases once

theorem text_of_text {found : Option Value} {text : String} (given : text? found = some text) :
    found = some (.string text) := by
  rw [text?.eq_def] at given
  split at given
  · cases given
    rfl
  · cases given

theorem string_of_optional_text {found : Option Value} {text : Option String}
    (given : optionalText? found = some text) : found.bind Value.string? = text := by
  rw [optionalText?.eq_def] at given
  split at given <;> cases given <;> rfl

theorem text_members_of_text_entries {members : List (String × Value)}
    {pairs : List (String × String)} (given : textEntries? members = some pairs) :
    members = textMembers pairs := by
  induction members generalizing pairs with
  | nil =>
      cases given
      rfl
  | cons member members induction =>
      rw [textEntries?.eq_def] at given
      split at given
      · next same => cases same
      · next same =>
          cases same
          obtain ⟨rest, read, rfl⟩ := Option.map_eq_some_iff.1 given
          rw [induction read]
          rfl
      · cases given

theorem canonical_text_members (pairs : List (String × String)) (table : NameTable String) :
    Value.canonicalMembers (textMembers pairs) (textMembers table.entries) =
      textMembers (pairs.foldl (fun table pair => table.put pair.1 pair.2) table).entries := by
  induction pairs generalizing table with
  | nil => rfl
  | cons pair pairs induction =>
      obtain ⟨name, text⟩ := pair
      have put : putEntry name (Value.string text) (textMembers table.entries) =
          textMembers (table.put name text).entries :=
        (put_entry_map Value.string text table.entries).symm
      change Value.canonicalMembers (textMembers pairs)
        (putEntry name (.string text) (textMembers table.entries)) = _
      rw [put, induction]
      rfl

namespace DataCall

theorem members_of_body {body : List (String × Value)} {call : DataCall}
    (meant : ofBody (.object body) = some call) :
    latest? "endpoint" body = some (.string call.endpoint) ∧
      latest? "method" body = some (.string call.method) ∧
      parameters? (latest? "parameters" body) = some call.parameters ∧
      (latest? "reasoning" body).bind Value.string? = call.reasoning := by
  simp only [ofBody, ofFields, Option.bind_eq_bind, Option.bind_eq_some_iff] at meant
  obtain ⟨endpoint, endpointOnce, method, methodOnce, parameters, parametersOnce, reasoning,
    reasoningOnce, endpointText, endpointRead, methodText, methodRead, table, tableRead,
    reasoningText, reasoningRead, same⟩ := meant
  cases same
  rw [latest_of_once endpointOnce, latest_of_once methodOnce, latest_of_once parametersOnce,
    latest_of_once reasoningOnce]
  exact ⟨text_of_text endpointRead, text_of_text methodRead, tableRead,
    string_of_optional_text reasoningRead⟩

end DataCall

theorem documentation_of_body {body : List (String × Value)} {call : ToolCall}
    (meant : documentationOfBody (.object body) = some call) :
    call = .documentation ((latest? "answer" body).bind Value.string?)
      ((latest? "reasoning" body).bind Value.string?) := by
  simp only [documentationOfBody, Option.bind_eq_bind, Option.bind_eq_some_iff] at meant
  obtain ⟨answer, answerOnce, reasoning, reasoningOnce, answerText, answerRead, reasoningText,
    reasoningRead, same⟩ := meant
  cases same
  rw [latest_of_once answerOnce, latest_of_once reasoningOnce, string_of_optional_text answerRead,
    string_of_optional_text reasoningRead]

namespace ToolCall

theorem render_text_members (pairs : List (String × String)) (table : NameTable String) :
    renderParameters (textMembers pairs) table =
      .ok (pairs.foldl (fun table pair => table.put pair.1 pair.2) table) := by
  induction pairs generalizing table with
  | nil => rfl
  | cons pair pairs induction => exact induction (table.put pair.1 pair.2)

theorem render_parameters_read {members : List (String × Value)} {parameters : NameTable String}
    (read : parameters? (latest? "parameters" members) = some parameters) :
    renderParameters (parameterMembers (Value.canonicalMembers members [])) .empty =
      .ok parameters := by
  rw [parameterMembers, Value.latest_canonical_members _ _ List.Pairwise.nil, latest?,
    Option.or_none]
  cases found : latest? "parameters" members with
  | none =>
      rw [found] at read
      cases read
      rfl
  | some value =>
      rw [found, parameters?.eq_def] at read
      split at read
      · next absent => cases absent
      · next object =>
          cases object
          obtain ⟨pairs, texts, rfl⟩ := Option.map_eq_some_iff.1 read
          rw [text_members_of_text_entries texts]
          change renderParameters (Value.canonicalMembers (textMembers pairs)
            (textMembers (NameTable.empty : NameTable String).entries)) .empty = _
          rw [canonical_text_members, render_text_members]
          exact congrArg Except.ok (NameTable.of_list_entries (NameTable.ofList pairs))
      · cases read

/-- The call that a call should have been: without blanks around its endpoint, and with the only
method there is. -/
def normalized : ToolCall → Except ToolCallError ToolCall
  | .documentation answer reasoning => .ok (.documentation answer reasoning)
  | .data call =>
      let method := Text.upperAscii (Text.trim call.method)
      if Text.allBlank call.endpoint then .error .missingEndpoint
      else if method ≠ onlyMethod then .error (.unsupportedMethod method)
      else
        .ok (.data ⟨Text.trim call.endpoint, onlyMethod, call.parameters, call.reasoning⟩)

theorem data_of_members {members : List (String × Value)} {call : DataCall}
    (endpoint : textMember "endpoint" members = some call.endpoint)
    (method : textMember "method" members = some call.method)
    (parameters : renderParameters (parameterMembers members) .empty = .ok call.parameters)
    (reasoning : textMember "reasoning" members = call.reasoning) :
    dataOfMembers members = normalized (.data call) := by
  rw [dataOfMembers, endpoint, Option.map_some, Option.bind_some, Text.unlessBlank,
    Text.all_blank_trim, methodOf, method, parameters, reasoning, normalized]
  cases Text.allBlank call.endpoint with
  | true => rfl
  | false =>
      by_cases only : Text.upperAscii (Text.trim call.method) = onlyMethod
      · simp [only]
      · simp [only]

theorem of_value_of_tagged {members : List (String × Value)} {tag : String} {call : ToolCall}
    (known : tag ∈ tags)
    (tagged : members.filter (·.1 = "type") = [("type", .string tag)])
    (meant : ofTagged ⟨tag, .object (members.filter (·.1 ≠ "type"))⟩ = some call) :
    ofValue (.object (Value.canonicalMembers members [])) = call.normalized := by
  have body {name : String} (other : name ≠ "type") :
      latest? name (members.filter (·.1 ≠ "type")) = latest? name members :=
    latest_filter _ (fun _ => decide_eq_true other) members
  have type : textMember "type" (Value.canonicalMembers members []) = some tag := by
    have last : latest? "type" members = some (.string tag) := by
      rw [← latest_filter (fun pair => pair.1 = "type") (fun _ => decide_eq_true rfl) members,
        tagged]
      rfl
    rw [text_member_canonical, last]
    rfl
  rw [ofValue, isDocumentation, type]
  rw [tags, List.mem_cons, List.mem_singleton] at known
  rcases known with rfl | rfl
  · obtain ⟨data, read, rfl⟩ := Option.map_eq_some_iff.1 meant
    obtain ⟨endpoint, method, parameters, reasoning⟩ := DataCall.members_of_body read
    rw [body (by decide)] at endpoint method parameters reasoning
    change dataOfMembers (Value.canonicalMembers members []) = _
    refine data_of_members ?_ ?_ (render_parameters_read parameters) ?_
    · rw [text_member_canonical, endpoint]
      rfl
    · rw [text_member_canonical, method]
      rfl
    · rw [text_member_canonical, reasoning]
  · have same := documentation_of_body meant
    rw [body (by decide), body (by decide)] at same
    rw [same, text_member_canonical, text_member_canonical]
    rfl

theorem only_method_stays : Text.upperAscii (Text.trim onlyMethod) = onlyMethod := by decide

theorem normalized_of_of_value {value : Value} {call : ToolCall}
    (called : ofValue value = .ok call) : call.normalized = .ok call := by
  rw [ofValue.eq_def] at called
  split at called
  · split at called
    · cases called
      rfl
    · rw [dataOfMembers] at called
      split at called
      · cases called
      · next endpoint named =>
          obtain ⟨trimmed, given, visible⟩ := Option.bind_eq_some_iff.1 named
          obtain ⟨text, _, rfl⟩ := Option.map_eq_some_iff.1 given
          rw [Text.unlessBlank] at visible
          split at visible
          · cases visible
          · next notBlank =>
              cases visible
              dsimp only at called
              split at called
              · next only =>
                  split at called
                  · cases called
                  · cases called
                    rw [normalized, only, Text.trim_trim, if_neg notBlank]
                    exact if_neg (fun other => other only_method_stays)
              · cases called
  · cases called

theorem of_value_of_decode {text : String} {call : ToolCall} {start : List Char}
    (opens : Json.dropSpace text.toList = '{' :: start) (decoded : decode text = .ok call) :
    (Json.parse text).map ofValue = .ok call.normalized := by
  rw [decode, Json.complete_eq_ok] at decoded
  obtain ⟨rest, read, ends⟩ := decoded
  split at read
  · cases read
  · next tagged after tagging =>
      split at read
      · next meant =>
          cases read
          obtain ⟨members, document, known, tag, body⟩ := Json.document_of_tagged opens tagging
          have whole : Json.readDocument text.toList = .ok (.object members) :=
            Json.complete_eq_ok.2 ⟨rest, document, ends⟩
          obtain ⟨name, other⟩ := tagged
          subst body
          rw [Json.parse, whole]
          exact congrArg Except.ok (of_value_of_tagged known tag meant)
      · cases read

theorem encode_opens (call : ToolCall) :
    ∃ start, Json.dropSpace call.encode.toList = '{' :: start := by
  rw [encode, Value.compact, String.toList_ofList, to_value_eq]
  exact ⟨_, rfl⟩

/-- The two readers agree: what an object is strictly decoded as is read loosely as its normal
form, and what is read loosely from any value is given back by both readers once it is encoded. -/
theorem decoders_agree :
    (∀ text call start, Json.dropSpace text.toList = '{' :: start → decode text = .ok call →
      (Json.parse text).map ofValue = .ok call.normalized) ∧
    ∀ value call, ofValue value = .ok call →
      decode call.encode = .ok call ∧ (Json.parse call.encode).map ofValue = .ok (.ok call) := by
  refine ⟨fun text call start opens decoded => of_value_of_decode opens decoded, ?_⟩
  intro value call called
  obtain ⟨start, opens⟩ := call.encode_opens
  have read := of_value_of_decode opens call.decode_encode
  rw [normalized_of_of_value called] at read
  exact ⟨call.decode_encode, read⟩

/-- A call with blanks, a method in small letters, a null reasoning and a member nobody knows. -/
theorem spaced_call_agrees :
    let text := " \x7b\"reasoning\":null,\"method\":\" get\",\"type\":\"data_call\"," ++
      "\"extra\":[1,\x7b\x7d],\"endpoint\":\" /api/v1/keys\\t\"," ++
      "\"parameters\":\x7b\"b\":\"2\",\"a\":\"1\"\x7d\x7d"
    let parameters : NameTable String := .ofList [("a", "1"), ("b", "2")]
    let call : ToolCall := .data ⟨" /api/v1/keys\t", " get", parameters, none⟩
    let normal : ToolCall := .data ⟨"/api/v1/keys", "GET", parameters, none⟩
    decode text = .ok call ∧ (Json.parse text).map ofValue = .ok (.ok normal) ∧
      decode normal.encode = .ok normal := by
  intro text parameters call normal
  have opens : Json.dropSpace text.toList = '{' :: text.toList.drop 2 := by decide +kernel
  have decoded : decode text = .ok call := Json.eq_ok_of_to_option (by decide +kernel)
  have normalizes : call.normalized = .ok normal := Json.eq_ok_of_to_option (by decide +kernel)
  have read := decoders_agree.1 text call _ opens decoded
  rw [normalizes] at read
  obtain ⟨value, _, called⟩ := Json.map_eq_ok read
  exact ⟨decoded, read, (decoders_agree.2 value normal called).1⟩

end ToolCall

end ReconChat

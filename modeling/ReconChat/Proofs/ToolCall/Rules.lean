import ReconChat.Proofs.Json.Reading
import ReconChat.Proofs.Text.Blank
import ReconChat.Proofs.Text.Utf8
import ReconChat.Proofs.ToolCall.Members

/-!
The rules by which a value written by the model is read as a tool call. The first rule that applies
decides, whatever else is wrong with the value. A rule looks at what the last member of a name says
and nowhere else, so that the order of the members and what they say earlier do not count. Texts
that are not JSON are left out.
-/

namespace ReconChat.ToolCall

open Json (Value)

section Members

variable (members : List (String × Value))

def IsDocumented : Prop :=
  ∃ tag ∈ ["DOCUMENTATION_QUERY", "documentation"], latest? "type" members = some (.string tag)

/-- The endpoint that the object names: a text with more than blanks, without those around it. -/
def NamesEndpoint (endpoint : String) : Prop :=
  ∃ text, latest? "endpoint" members = some (.string text) ∧ Text.trim text ≠ "" ∧
    endpoint = Text.trim text

/-- The method that the object asks for: a text without blanks around it, in upper case. -/
def AsksMethod (method : String) : Prop :=
  ∃ text, latest? "method" members = some (.string text) ∧
    method = Text.upperAscii (Text.trim text)

def HasParameter (name : String) (value : Value) : Prop :=
  ∃ parameters, latest? "parameters" members = some (.object parameters) ∧
    latest? name parameters = some value

/-- A text that the object may have under a name; anything but a string counts as missing. -/
def HoldsText (name : String) (text : Option String) : Prop :=
  ∀ said, text = some said ↔ latest? name members = some (.string said)

end Members

/-- What the first rule that applies to a value makes of it. -/
inductive FirstRule : Value → Except ToolCallError ToolCall → Prop where
  | notAnObject {value : Value} :
      (∀ members, value ≠ .object members) → FirstRule value (.error .notAnObject)
  | documentation {members : List (String × Value)} {answer reasoning : Option String} :
      IsDocumented members → HoldsText members "answer" answer →
      HoldsText members "reasoning" reasoning →
      FirstRule (.object members) (.ok (.documentation answer reasoning))
  | missingEndpoint {members : List (String × Value)} :
      ¬IsDocumented members → (∀ endpoint, ¬NamesEndpoint members endpoint) →
      FirstRule (.object members) (.error .missingEndpoint)
  | unsupportedMethod {members : List (String × Value)} {endpoint method : String} :
      ¬IsDocumented members → NamesEndpoint members endpoint →
      AsksMethod members method → method ≠ "GET" →
      FirstRule (.object members) (.error (.unsupportedMethod method))
  | invalidParameter {members : List (String × Value)} {endpoint name : String} {value : Value} :
      ¬IsDocumented members → NamesEndpoint members endpoint →
      (∀ method, AsksMethod members method → method = "GET") →
      HasParameter members name value → IsCompound value →
      (∀ other given, HasParameter members other given → IsCompound given → other ≠ name →
        Text.Utf8.encode name < Text.Utf8.encode other) →
      FirstRule (.object members) (.error (.invalidParameter name))
  | data {members : List (String × Value)} {call : DataCall} :
      ¬IsDocumented members → NamesEndpoint members call.endpoint →
      (∀ method, AsksMethod members method → method = "GET") → call.method = "GET" →
      (∀ name value, HasParameter members name value → ¬IsCompound value) →
      (∀ name text, (name, text) ∈ call.parameters.entries ↔
        ∃ value, HasParameter members name value ∧ Renders value text) →
      HoldsText members "reasoning" call.reasoning →
      FirstRule (.object members) (.ok (.data call))

section Canonical

/-! What the reader looks up in the sorted members is what the members say. -/

variable {members : List (String × Value)}

theorem text_member_eq_some_iff {name text : String} :
    textMember name (Value.canonicalMembers members []) = some text ↔
      latest? name members = some (.string text) := by
  rw [text_member_canonical, Option.bind_eq_some_iff]
  constructor
  · rintro ⟨value, found, said⟩
    cases value <;> cases said
    exact found
  · intro found
    exact ⟨_, found, rfl⟩

theorem holds_text_iff {name : String} {text : Option String} :
    HoldsText members name text ↔ textMember name (Value.canonicalMembers members []) = text := by
  rw [Option.ext_iff]
  refine forall_congr' fun said => ?_
  rw [text_member_eq_some_iff]
  exact iff_comm

theorem is_documentation_iff :
    isDocumentation (Value.canonicalMembers members []) = true ↔ IsDocumented members := by
  rw [isDocumentation, IsDocumented]
  cases found : textMember "type" (Value.canonicalMembers members []) with
  | none =>
      have absent (tag : String) : latest? "type" members ≠ some (.string tag) := by
        rw [ne_eq, ← text_member_eq_some_iff, found]
        exact nofun
      simp [absent]
  | some tag =>
      simp [text_member_eq_some_iff.1 found, documentationTags]

theorem endpoint_eq_some_iff {endpoint : String} :
    ((textMember "endpoint" (Value.canonicalMembers members [])).map Text.trim).bind
        Text.unlessBlank = some endpoint ↔ NamesEndpoint members endpoint := by
  simp only [Option.bind_eq_some_iff, Option.map_eq_some_iff, text_member_eq_some_iff,
    Text.unlessBlank, NamesEndpoint, ne_eq, Text.trim_eq_empty]
  constructor
  · rintro ⟨_, ⟨text, found, rfl⟩, visible⟩
    rw [Text.all_blank_trim] at visible
    split at visible
    · cases visible
    · next speaks =>
        cases visible
        exact ⟨text, found, speaks, rfl⟩
  · rintro ⟨text, found, speaks, rfl⟩
    exact ⟨_, ⟨text, found, rfl⟩, by rw [Text.all_blank_trim, if_neg speaks]⟩

theorem method_of_cases (members : List (String × Value)) :
    methodOf (Value.canonicalMembers members []) = "GET" ∧ (∀ method, ¬AsksMethod members method) ∨
      ∀ method, AsksMethod members method ↔
        method = methodOf (Value.canonicalMembers members []) := by
  rw [methodOf]
  cases found : textMember "method" (Value.canonicalMembers members []) with
  | none =>
      refine .inl ⟨rfl, ?_⟩
      rintro method ⟨text, given, _⟩
      rw [← text_member_eq_some_iff, found] at given
      cases given
  | some said =>
      refine .inr fun method => ⟨?_, ?_⟩
      · rintro ⟨text, given, rfl⟩
        rw [← text_member_eq_some_iff, found, Option.some.injEq] at given
        rw [given]
      · rintro rfl
        exact ⟨said, text_member_eq_some_iff.1 found, rfl⟩

theorem method_of_eq_get_iff :
    methodOf (Value.canonicalMembers members []) = onlyMethod ↔
      ∀ method, AsksMethod members method → method = "GET" := by
  rcases method_of_cases members with ⟨same, none⟩ | asked
  · exact ⟨fun _ method asks => absurd asks (none method), fun _ => same⟩
  · exact ⟨fun same method asks => ((asked method).1 asks).trans same,
      fun only => only _ ((asked _).2 rfl)⟩

theorem parameter_members_increase (members : List (String × Value)) :
    NamesIncrease (parameterMembers (Value.canonicalMembers members [])) := by
  rw [parameterMembers, Value.latest_canonical_members _ _ List.Pairwise.nil, latest?,
    Option.or_none]
  cases latest? "parameters" members with
  | none => exact List.Pairwise.nil
  | some value =>
      cases value with
      | object parameters =>
          rw [Option.map_some, Value.canonical]
          exact Value.canonical_members_increase _ List.Pairwise.nil
      | _ => exact List.Pairwise.nil

theorem mem_parameter_members_iff {name : String} {value : Value} :
    (name, value) ∈ parameterMembers (Value.canonicalMembers members []) ↔
      ∃ given, HasParameter members name given ∧ value = given.canonical := by
  rw [mem_iff_latest (parameter_members_increase members), parameterMembers,
    Value.latest_canonical_members _ _ List.Pairwise.nil, latest?, Option.or_none]
  simp only [HasParameter]
  cases found : latest? "parameters" members with
  | none => simp [latest?]
  | some parameters =>
      cases parameters with
      | object parameters =>
          rw [Option.map_some, Value.canonical]
          simp [Value.latest_canonical_members _ _ List.Pairwise.nil, latest?, eq_comm]
      | _ => simp [Value.canonical, latest?]

/-- The parameters are all rendered, or the least compound one is refused. -/
theorem parameters_settled (members : List (String × Value)) :
    (∃ table, renderParameters (parameterMembers (Value.canonicalMembers members [])) .empty =
        .ok table ∧
      (∀ name value, HasParameter members name value → ¬IsCompound value) ∧
      ∀ name text, (name, text) ∈ table.entries ↔
        ∃ value, HasParameter members name value ∧ Renders value text) ∨
    ∃ name value, renderParameters (parameterMembers (Value.canonicalMembers members [])) .empty =
        .error (.invalidParameter name) ∧
      HasParameter members name value ∧ IsCompound value ∧
      ∀ other given, HasParameter members other given → IsCompound given → other ≠ name →
        Text.Utf8.encode name < Text.Utf8.encode other := by
  have increase := parameter_members_increase members
  have inside {name : String} {value : Value} (has : HasParameter members name value) :
      (name, value.canonical) ∈ parameterMembers (Value.canonicalMembers members []) :=
    mem_parameter_members_iff.2 ⟨value, has, rfl⟩
  rcases render_parameters_settled increase .empty with
    ⟨table, done, usable⟩ | ⟨name, value, stops, member, compound, least⟩
  · refine .inl ⟨table, done, ?_, ?_⟩
    · intro name value has compound
      exact usable _ (inside has) (compound_canonical_iff.2 compound)
    · intro name text
      rw [mem_iff_latest table.sorted, latest_render_parameters increase done]
      simp only [NameTable.empty, latest?, Option.or_none, Option.bind_eq_some_iff,
        rendered_text_eq_some_iff, ← mem_iff_latest increase, mem_parameter_members_iff]
      constructor
      · rintro ⟨_, ⟨value, has, rfl⟩, renders⟩
        exact ⟨value, has, renders_canonical_iff.1 renders⟩
      · rintro ⟨value, has, renders⟩
        exact ⟨_, ⟨value, has, rfl⟩, renders_canonical_iff.2 renders⟩
  · obtain ⟨given, has, rfl⟩ := mem_parameter_members_iff.1 member
    refine .inr ⟨name, given, stops, has, compound_canonical_iff.1 compound, ?_⟩
    intro other value another unusable different
    exact Text.Utf8.encode_lt
      (least _ (inside another) (compound_canonical_iff.2 unusable) different)

end Canonical

section Rules

variable {members : List (String × Value)} {endpoint : String}

theorem of_value_of_named (undocumented : ¬IsDocumented members)
    (named : NamesEndpoint members endpoint) :
    let sorted := Value.canonicalMembers members []
    ofValue (Value.object members).canonical =
      if methodOf sorted = onlyMethod then
        (renderParameters (parameterMembers sorted) .empty).map fun parameters =>
          .data ⟨endpoint, methodOf sorted, parameters, textMember "reasoning" sorted⟩
      else .error (.unsupportedMethod (methodOf sorted)) := by
  intro sorted
  rw [Value.canonical, ofValue, if_neg (mt is_documentation_iff.1 undocumented), dataOfMembers,
    endpoint_eq_some_iff.2 named]
  dsimp only
  cases renderParameters (parameterMembers sorted) .empty <;> rfl

theorem of_value_of_first_rule {document : Value} {result : Except ToolCallError ToolCall}
    (rule : FirstRule document result) : ofValue document.canonical = result := by
  cases rule with
  | notAnObject other =>
      cases document with
      | object members => exact absurd rfl (other members)
      | _ => rfl
  | documentation documented answer reasoning =>
      rw [Value.canonical, ofValue, if_pos (is_documentation_iff.2 documented),
        holds_text_iff.1 answer, holds_text_iff.1 reasoning]
  | missingEndpoint undocumented unnamed =>
      have none : ((textMember "endpoint" (Value.canonicalMembers _ [])).map Text.trim).bind
          Text.unlessBlank = none :=
        Option.eq_none_iff_forall_ne_some.2 fun endpoint found =>
          unnamed endpoint (endpoint_eq_some_iff.1 found)
      rw [Value.canonical, ofValue, if_neg (mt is_documentation_iff.1 undocumented),
        dataOfMembers, none]
  | unsupportedMethod undocumented named asks other =>
      rw [of_value_of_named undocumented named, if_neg]
      · rcases method_of_cases _ with ⟨_, none⟩ | asked
        · exact absurd asks (none _)
        · rw [(asked _).1 asks]
      · intro only
        exact other (method_of_eq_get_iff.1 only _ asks)
  | @invalidParameter members endpoint name value undocumented named only has compound least =>
      rw [of_value_of_named undocumented named, if_pos (method_of_eq_get_iff.2 only)]
      rcases parameters_settled members with
        ⟨table, _, usable, _⟩ | ⟨first, given, stops, another, unusable, before⟩
      · exact absurd compound (usable _ _ has)
      · rw [stops]
        by_cases same : first = name
        · rw [same]
          rfl
        · exact absurd (List.lt_trans (before _ _ has compound (Ne.symm same))
            (least _ _ another unusable same)) (List.lt_irrefl _)
  | @data members call undocumented named only method usable parameters reasoning =>
      rw [of_value_of_named undocumented named, if_pos (method_of_eq_get_iff.2 only)]
      rcases parameters_settled members with
        ⟨table, done, _, entries⟩ | ⟨first, given, _, another, unusable, _⟩
      · have same : table = call.parameters := by
          refine NameTable.eq_of_entries (eq_of_same_entries table.sorted call.parameters.sorted ?_)
          intro pair
          rw [entries, parameters]
        rw [done, same, method_of_eq_get_iff.2 only, holds_text_iff.1 reasoning]
        obtain ⟨_, _, _, _⟩ := call
        cases method
        rfl
      · exact absurd unusable (usable _ _ another)

theorem first_rule_exists (document : Value) : ∃ result, FirstRule document result := by
  by_cases object : ∃ members, document = .object members
  · obtain ⟨members, rfl⟩ := object
    by_cases documented : IsDocumented members
    · exact ⟨_, .documentation documented (holds_text_iff.2 rfl) (holds_text_iff.2 rfl)⟩
    by_cases named : ∃ endpoint, NamesEndpoint members endpoint
    · obtain ⟨endpoint, named⟩ := named
      by_cases only : ∀ method, AsksMethod members method → method = "GET"
      · rcases parameters_settled members with
          ⟨table, _, usable, entries⟩ | ⟨name, value, _, has, compound, least⟩
        · exact ⟨.ok (.data ⟨endpoint, "GET", table, _⟩),
            .data documented named only rfl usable entries (holds_text_iff.2 rfl)⟩
        · exact ⟨_, .invalidParameter documented named only has compound least⟩
      · obtain ⟨method, asks, other⟩ : ∃ method, AsksMethod members method ∧ method ≠ "GET" := by
          simpa using only
        exact ⟨_, .unsupportedMethod documented named asks other⟩
    · exact ⟨_, .missingEndpoint documented fun endpoint found => named ⟨endpoint, found⟩⟩
  · exact ⟨_, .notAnObject fun members same => object ⟨members, same⟩⟩

theorem of_value_eq_iff (document : Value) (result : Except ToolCallError ToolCall) :
    ofValue document.canonical = result ↔ FirstRule document result := by
  constructor
  · rintro rfl
    obtain ⟨result, rule⟩ := first_rule_exists document
    rwa [of_value_of_first_rule rule]
  · exact of_value_of_first_rule

theorem data_call_of_first_rule {document : Value} {call : DataCall}
    (rule : FirstRule document (.ok (.data call))) :
    call.method = "GET" ∧ call.endpoint ≠ "" ∧ Text.trim call.endpoint = call.endpoint ∧
      ∃ members, document = .object members ∧ ∀ name,
        (∃ text, (name, text) ∈ call.parameters.entries) ↔
          ∃ value, HasParameter members name value ∧ value ≠ .null := by
  cases rule with
  | @data members _ _ named _ method usable parameters _ =>
      obtain ⟨text, _, speaks, same⟩ := named
      refine ⟨method, same ▸ speaks, by rw [same, Text.trim_trim], members, rfl, ?_⟩
      intro name
      constructor
      · rintro ⟨text, member⟩
        obtain ⟨value, has, renders⟩ := (parameters name text).1 member
        exact ⟨value, has, (renders_iff (usable _ _ has)).1 ⟨text, renders⟩⟩
      · rintro ⟨value, has, notNull⟩
        obtain ⟨text, renders⟩ := (renders_iff (usable _ _ has)).2 notNull
        exact ⟨text, (parameters name text).2 ⟨value, has, renders⟩⟩

end Rules

/-- A value is read by the first rule that applies to it, whatever else is wrong with it and in
whatever order its text lists the members. No value is read as a data call with another method, an
endpoint that is empty or has blanks around it, or without a parameter that is not null. -/
theorem value_read_by_first_rule :
    (∀ document result, ofValue document.canonical = result ↔ FirstRule document result) ∧
    (∀ text document, Json.readDocument text.toList = .ok document →
      ∀ result, (Json.parse text).map ofValue = .ok result ↔ FirstRule document result) ∧
    (∀ members others : List (String × Value), (members.map (·.1)).Nodup →
      (members.map fun pair => (pair.1, pair.2.canonical)).Perm
        (others.map fun pair => (pair.1, pair.2.canonical)) →
      ofValue (Value.object members).canonical = ofValue (Value.object others).canonical) ∧
    ∀ (document : Value) (call : DataCall), ofValue document.canonical = .ok (.data call) →
      call.method = "GET" ∧ call.endpoint ≠ "" ∧ Text.trim call.endpoint = call.endpoint ∧
        ∃ members, document = .object members ∧ ∀ name,
          (∃ text, (name, text) ∈ call.parameters.entries) ↔
            ∃ value, HasParameter members name value ∧ value ≠ .null := by
  refine ⟨of_value_eq_iff, ?_, ?_, ?_⟩
  · intro text document read result
    rw [Json.parse, read, ← of_value_eq_iff]
    change Except.ok (ofValue document.canonical) = .ok result ↔ _
    rw [Except.ok.injEq]
  · intro members others nodup perm
    rw [Value.canonical, Value.canonical, Value.canonical_members_of_perm nodup perm]
  · intro document call read
    exact data_call_of_first_rule ((of_value_eq_iff _ _).1 read)

/-- Two compound parameters behind a null, a method in small letters, an endpoint with blanks. -/
theorem least_compound_parameter_is_refused :
    let text := "\x7b\"parameters\":\x7b\"é\":[1],\"z\":\x7b\x7d,\"a\":null\x7d," ++
      "\"method\":\" get\",\"type\":\"data\",\"endpoint\":\"\\t/keys \"\x7d"
    ∃ document, Json.readDocument text.toList = .ok document ∧
      FirstRule document (.error (.invalidParameter "z")) := by
  intro text
  have refused : (Json.parse text).map ofValue = .ok (.error (.invalidParameter "z")) :=
    Json.eq_ok_of_to_option (by decide +kernel)
  obtain ⟨value, read, _⟩ := Json.map_eq_ok refused
  obtain ⟨document, listed, _⟩ := Json.map_eq_ok read
  exact ⟨document, listed, (value_read_by_first_rule.2.1 text document listed _).1 refused⟩

end ReconChat.ToolCall

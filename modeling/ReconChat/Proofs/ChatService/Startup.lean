import ReconChat.ChatService.Startup
import ReconChat.Proofs.Agent.Start
import ReconChat.Proofs.ChatService.Routes

/-!
What a chat service is after its start. The settings and the files settle whether it has an agent,
and if so what the agent holds, which key it sends, and whether its queries get past the schema. The
log and the address of the service are left out.
-/

namespace ReconChat.ChatService

open Http (Network)

variable {settings : Settings} {files : Files}

theorem agent_of_eq_some {agent : Agent (StateM Network)} :
    agentOf settings files = some agent ↔ Agent.start settings files = .ok agent := by
  rw [agentOf]
  cases Agent.start settings files <;> simp [Except.toOption]

/-- The service has an agent exactly if there is a key and a schema; the guide plays no part. -/
theorem agent_starts_iff :
    (agentOf settings files).isSome = true ↔
      (∃ key, settings.gemini.apiKey = some key ∧ Text.trim key ≠ "") ∧
        ∃ schema, files settings.documents.schemaPath = .ok (Text.Utf8.encode schema) := by
  rw [Option.isSome_iff_exists]
  constructor
  · rintro ⟨agent, started⟩
    obtain ⟨key, documents, given, speaks, inside, _⟩ :=
      Agent.started_agent (agent_of_eq_some.1 started)
    exact ⟨⟨key, given, speaks⟩, documents.schema, inside.schema⟩
  · rintro ⟨⟨key, given, speaks⟩, schema, read⟩
    obtain ⟨agent, started⟩ := Agent.start_of_key given speaks read
    exact ⟨agent, agent_of_eq_some.2 started⟩

/-- A query on an agent whose schema is blank is answered without any exchange. -/
theorem respond_without_schema {State : Type} {agent : Agent (StateM State)} {request : Request}
    {query : String} (blank : Text.trim agent.documents.schema = "") (chat : request.IsChat)
    (asks : request.Asks query) (state : State) :
    ∃ response, respond (some agent) request state = (response, state) ∧ response.status = 200 ∧
      ChatResponse.decode response.body = .ok ⟨Agent.schemaNotLoaded⟩ := by
  have replied : respond (some agent) request state = _ := respond_to_query chat asks
  rw [Agent.process_query_blank_schema blank] at replied
  exact ⟨_, replied, rfl, ChatResponse.decode_encode _⟩

/-- Key and schema settle whether the service has an agent, and without a key the files play no
part. An agent holds the texts of its files, sends the key without the blanks around it on every
request to the model and on no other, and says that its schema is not loaded whenever that is
blank. -/
theorem start_settles_agent (settings : Settings) (files : Files) :
    ((agentOf settings files).isSome = true ↔
      (∃ key, settings.gemini.apiKey = some key ∧ Text.trim key ≠ "") ∧
        ∃ schema, files settings.documents.schemaPath = .ok (Text.Utf8.encode schema)) ∧
    ((∀ key, settings.gemini.apiKey = some key → Text.trim key = "") →
      Agent.start settings files = .error .missingKey) ∧
    ∀ agent, agentOf settings files = some agent →
      agent.documents.AreIn files settings.documents ∧
      (∃ key, settings.gemini.apiKey = some key ∧
        let gemini := Gemini.Client.ofSettings settings.gemini (Text.trim key)
        let recon := Recon.Client.ofSettings settings.recon
        (∀ query network,
          Agent.KeysInPlace gemini recon network (agent.processQuery query network).2) ∧
        ∀ network, Agent.KeysInPlace gemini recon network (agent.testConnections network).2) ∧
      (Text.trim agent.documents.schema = "" → ∀ network : Network,
        (∀ query, agent.processQuery query network =
          ("Error: API schema not loaded. Please check the configuration.", network)) ∧
        ∀ (request : Request) query, request.IsChat → request.Asks query →
          ∃ response, respond (some agent) request network = (response, network) ∧
            response.status = 200 ∧ ChatResponse.decode response.body =
              .ok ⟨"Error: API schema not loaded. Please check the configuration."⟩) := by
  refine ⟨agent_starts_iff, Agent.start_missing_key, ?_⟩
  intro agent started
  obtain ⟨key, documents, given, _, inside, rfl⟩ :=
    Agent.started_agent (agent_of_eq_some.1 started)
  refine ⟨inside, ⟨key, given, ?_, ?_⟩, ?_⟩
  · intro query network
    exact Agent.query_keys_in_place _ _ documents query network
  · intro network
    exact Agent.test_keys_in_place _ _ documents network
  · intro blank network
    constructor
    · intro query
      exact Agent.process_query_blank_schema blank query network
    · intro request query chat asks
      exact respond_without_schema blank chat asks network

/-- A schema of blanks and a guide that is no text: there is an agent, and it says what it lacks. -/
theorem blank_schema_is_no_obstacle :
    let settings : Settings :=
      { Settings.standard with
        gemini := ⟨some " key\n", "m", "http://gemini", none⟩, documents := ⟨"s", "g"⟩ }
    let files : Files := fun path => if path = "s" then .ok [0x20, 0x0A] else .ok [0xFF]
    ∃ agent, agentOf settings files = some agent ∧ agent.documents = ⟨" \n", ""⟩ ∧
      ∀ query network, agent.processQuery query network = (Agent.schemaNotLoaded, network) := by
  intro settings files
  obtain ⟨starts, _, settled⟩ := start_settles_agent settings files
  have speaks : Text.trim " key\n" ≠ "" := by decide
  obtain ⟨agent, started⟩ :=
    Option.isSome_iff_exists.1 (starts.2 ⟨⟨" key\n", rfl, speaks⟩, " \n", by decide⟩)
  obtain ⟨inside, _, silent⟩ := settled agent started
  have schema : agent.documents.schema = " \n" :=
    Text.Utf8.encode_injective (Except.ok.inj inside.schema).symm
  have guide : agent.documents.guide = "" := by
    apply inside.noGuide
    intro guide same
    have decoded := (Text.Utf8.decode_eq_some_iff _ _).2 (Except.ok.inj same)
    cases decoded
  refine ⟨agent, started, ?_, ?_⟩
  · rw [← schema, ← guide]
  · intro query network
    have blank : Text.trim agent.documents.schema = "" := by
      rw [schema]
      decide
    exact (silent blank network).1 query

end ReconChat.ChatService

import ReconChat.Proofs.Agent.Key
import ReconChat.Proofs.Text.Blank
import ReconChat.Proofs.Text.Utf8Exact

/-!
Starting an agent. It takes a key that is not blank and a schema that can be read as text; the
guide is kept if it can be read and is empty otherwise. What an agent holds is what is in the files,
byte for byte. Where there is no key the files play no part.
-/

namespace ReconChat

open Http (Network)

theorem Files.read_text_iff (files : Files) (path text : String) :
    files.readText path = .ok text ↔ files path = .ok (Text.Utf8.encode text) := by
  rw [readText]
  cases files path with
  | error error => simp
  | ok bytes =>
      rw [Except.ok.injEq, ← Text.Utf8.decode_eq_some_iff]
      dsimp only
      cases Text.Utf8.decode bytes <;> simp

namespace Documents

/-- Are these the documents in the files? A guide that is no text counts as an empty one. -/
structure AreIn (documents : Documents) (files : Files) (paths : DocumentSettings) : Prop where
  schema : files paths.schemaPath = .ok (Text.Utf8.encode documents.schema)
  guide : ∀ guide, files paths.guidePath = .ok (Text.Utf8.encode guide) → documents.guide = guide
  noGuide : (∀ guide, files paths.guidePath ≠ .ok (Text.Utf8.encode guide)) → documents.guide = ""

variable {files : Files} {paths : DocumentSettings} {documents : Documents}

theorem read_schema_iff (files : Files) (path schema : String) :
    readSchema files path = .ok schema ↔ files path = .ok (Text.Utf8.encode schema) := by
  rw [← Files.read_text_iff, readSchema]
  split
  · next text read => simp [read]
  · next read => simp [read]
  · next error _ read => simp [read]

theorem load_of_schema {schema : String}
    (read : files paths.schemaPath = .ok (Text.Utf8.encode schema)) :
    ∃ guide, load files paths.schemaPath paths.guidePath = .ok ⟨schema, guide⟩ := by
  rw [load, (read_schema_iff _ _ _).2 read]
  exact ⟨_, rfl⟩

theorem are_in_of_load (loaded : load files paths.schemaPath paths.guidePath = .ok documents) :
    documents.AreIn files paths := by
  rw [load] at loaded
  split at loaded
  · cases loaded
  · next schema read =>
      cases loaded
      refine ⟨(read_schema_iff _ _ _).1 read, ?_, ?_⟩
      · intro guide found
        rw [(Files.read_text_iff _ _ _).2 found]
      · intro none
        cases given : files.readText paths.guidePath with
        | error error => rfl
        | ok guide => exact absurd ((Files.read_text_iff _ _ _).1 given) (none guide)

end Documents

theorem Settings.usable_key_iff (settings : Settings) (usable : String) :
    settings.usableKey = some usable ↔
      ∃ key, settings.gemini.apiKey = some key ∧ Text.trim key ≠ "" ∧ usable = Text.trim key := by
  rw [usableKey]
  cases settings.gemini.apiKey with
  | none => simp
  | some key =>
      rw [Option.map_some, Option.bind_some, Text.unlessBlank, Text.all_blank_trim]
      constructor
      · intro found
        split at found
        · cases found
        · next speaks =>
            cases found
            exact ⟨key, rfl, fun empty => speaks ((Text.trim_eq_empty key).1 empty), rfl⟩
      · rintro ⟨other, same, speaks, rfl⟩
        cases same
        exact if_neg fun blank => speaks ((Text.trim_eq_empty key).2 blank)

theorem Settings.usable_key_eq_none (settings : Settings) :
    settings.usableKey = none ↔
      ∀ key, settings.gemini.apiKey = some key → Text.trim key = "" := by
  rw [Option.eq_none_iff_forall_ne_some]
  constructor
  · intro unusable key given
    by_contra speaks
    exact unusable _ ((settings.usable_key_iff _).2 ⟨key, given, speaks, rfl⟩)
  · intro blank usable found
    obtain ⟨key, given, speaks, _⟩ := (settings.usable_key_iff _).1 found
    exact speaks (blank key given)

namespace Agent

variable {settings : Settings} {files : Files} {agent : Agent (StateM Network)}

theorem start_missing_key (blank : ∀ key, settings.gemini.apiKey = some key → Text.trim key = "") :
    start settings files = .error .missingKey := by
  rw [start, settings.usable_key_eq_none.2 blank]

theorem start_of_key {key schema : String} (given : settings.gemini.apiKey = some key)
    (speaks : Text.trim key ≠ "")
    (read : files settings.documents.schemaPath = .ok (Text.Utf8.encode schema)) :
    ∃ agent, start settings files = .ok agent := by
  obtain ⟨guide, loaded⟩ := Documents.load_of_schema read
  rw [start, (settings.usable_key_iff _).2 ⟨key, given, speaks, rfl⟩]
  dsimp only
  rw [loaded]
  exact ⟨_, rfl⟩

theorem started_agent (started : start settings files = .ok agent) :
    ∃ key documents, settings.gemini.apiKey = some key ∧ Text.trim key ≠ "" ∧
      documents.AreIn files settings.documents ∧
      agent = live settings (Text.trim key) documents := by
  rw [start] at started
  split at started
  · cases started
  · next usable found =>
      split at started
      · cases started
      · next documents loaded =>
          cases started
          obtain ⟨key, given, speaks, rfl⟩ := (settings.usable_key_iff _).1 found
          exact ⟨key, documents, given, speaks, Documents.are_in_of_load loaded, rfl⟩

theorem process_query_blank_schema {State : Type} {agent : Agent (StateM State)}
    (blank : Text.trim agent.documents.schema = "") (query : String) (state : State) :
    agent.processQuery query state = (schemaNotLoaded, state) := by
  have unloaded : ¬agent.documents.hasSchema = true := by
    rw [Documents.hasSchema, (Text.trim_eq_empty _).1 blank]
    exact Bool.noConfusion
  rw [processQuery, if_neg unloaded]
  rfl

section Keys

variable (gemini : Gemini.Client) (recon : Recon.Client) (documents : Documents)

theorem query_keys_in_place (query : String) (network : Network) :
    KeysInPlace gemini recon network
      ((ofClients gemini recon documents).processQuery query network).2 := by
  obtain ⟨orders, answer, course, run⟩ :=
    process_query_course gemini recon documents query network
  rw [run]
  exact keys_in_place_of_asked (course_orders_asked course)

theorem test_keys_in_place (network : Network) :
    KeysInPlace gemini recon network
      ((ofClients gemini recon documents).testConnections network).2 := by
  rw [test_connections_orders]
  exact keys_in_place_of_asked test_orders_asked

end Keys

end Agent

end ReconChat

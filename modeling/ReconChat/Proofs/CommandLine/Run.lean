import ReconChat.Proofs.CommandLine.Given
import ReconChat.Proofs.CommandLine.Settings

/-!
How a run of the command line ends when nobody can be asked for a key. It fails exactly if its
configuration file is no valid one, if it has no key, or if its schema cannot be read, and each of
these stops it before anything is sent. Otherwise it does the first of the four things it was asked
for and succeeds, whatever is answered to what it sends. Which paths and which query it was asked
for stands in its arguments.
-/

namespace ReconChat.CommandLine

open Http (Network)
open Settings (TextSetting said textOf)

/-- Is this what the configuration file says? Without a file nothing is said. -/
def IsConfigured (invocation : Invocation) (arguments : Arguments) (members : Toml.Members) :
    Prop :=
  match arguments.value? .config with
  | none => members = []
  | some path =>
      ∃ text, invocation.files path = .ok (Text.Utf8.encode text) ∧
        Toml.parse text = some members ∧ Settings.IsValid members

def keyGiven (environment : Environment) (members : Toml.Members) : Option String :=
  (said environment "GEMINI_API_KEY").or ((TextSetting.apiKey.written members).bind textOf)

/-- The path of the schema: an argument over the environment over the file over the default. -/
def schemaPathGiven (arguments : Arguments) (environment : Environment)
    (members : Toml.Members) : String :=
  ((arguments.value? .schema).or ((said environment "RECON_API_SCHEMA").or
    ((TextSetting.schemaPath.written members).bind textOf))).getD Documents.bundledSchemaPath

inductive IsHindered (invocation : Invocation) (arguments : Arguments) : Prop where
  | file : (∀ members, ¬IsConfigured invocation arguments members) → IsHindered invocation arguments
  | key {members : Toml.Members} : IsConfigured invocation arguments members →
      (∀ key, keyGiven invocation.environment members = some key → Text.trim key = "") →
        IsHindered invocation arguments
  | schema {members : Toml.Members} : IsConfigured invocation arguments members →
      (∀ schema, invocation.files (schemaPathGiven arguments invocation.environment members) ≠
        .ok (Text.Utf8.encode schema)) → IsHindered invocation arguments

/-- What an agent is made to do and what is written meanwhile: the first of the four things that
was asked for. -/
inductive Does (agent : Agent (StateM Network)) (arguments : Arguments) (input : List Console.Item)
    (network : Network) : String → Network → Prop where
  | tests : arguments.has .testConnections = true →
      Does agent arguments input network
        ("Testing connections...\n" ++ (agent.testConnections network).1.details)
        (agent.testConnections network).2
  | tells : arguments.has .testConnections = false → arguments.has .capabilities = true →
      Does agent arguments input network (capabilities ++ "\n") network
  | answers {query : String} : arguments.has .testConnections = false →
      arguments.has .capabilities = false → arguments.value? .query = some query →
        Does agent arguments input network
          ("Query: " ++ query ++ "\nResponse: " ++ (agent.processQuery query network).1 ++ "\n")
          (agent.processQuery query network).2
  | converses : arguments.has .testConnections = false → arguments.has .capabilities = false →
      arguments.value? .query = none →
        Does agent arguments input network
          (Console.interactive agent false input network).1
          (Console.interactive agent false input network).2

section Does

variable {agent : Agent (StateM Network)} {arguments : Arguments} {input : List Console.Item}
  {network after : Network} {text : String}

theorem does_perform :
    Does agent arguments input network (perform agent input (modeOf arguments) network).1
      (perform agent input (modeOf arguments) network).2 := by
  rw [modeOf]
  cases tests : arguments.has .testConnections with
  | true => exact .tests tests
  | false =>
      cases tells : arguments.has .capabilities with
      | true => exact .tells tests tells
      | false =>
          cases asked : arguments.value? .query with
          | none => exact .converses tests tells asked
          | some query => exact .answers tests tells asked

theorem does_iff :
    Does agent arguments input network text after ↔
      text = (perform agent input (modeOf arguments) network).1 ∧
        after = (perform agent input (modeOf arguments) network).2 := by
  constructor
  · intro done
    rw [modeOf]
    cases done with
    | tests tests =>
        rw [tests]
        exact ⟨rfl, rfl⟩
    | tells tests tells =>
        rw [tests, tells]
        exact ⟨rfl, rfl⟩
    | answers tests tells asked =>
        rw [tests, tells, asked]
        exact ⟨rfl, rfl⟩
    | converses tests tells asked =>
        rw [tests, tells, asked]
        exact ⟨rfl, rfl⟩
  · rintro ⟨rfl, rfl⟩
    exact does_perform

end Does

section Start

variable {invocation : Invocation} {arguments : Arguments} {members : Toml.Members}
  {settings : Settings}

theorem load_iff :
    Settings.load invocation.files invocation.environment (arguments.value? .config) =
        .ok settings ↔
      ∃ members, IsConfigured invocation arguments members ∧
        Settings.AreLayered invocation.environment members settings := by
  unfold IsConfigured
  cases arguments.value? .config with
  | none =>
      have nothing : Settings.AreLayered invocation.environment []
          (Settings.ofEnvironment invocation.environment) :=
        Settings.of_environment_layered _ (fun setting => by cases setting <;> rfl)
          fun timeout => by cases timeout <;> rfl
      simp only [exists_eq_left]
      constructor
      · intro loaded
        rwa [← Except.ok.inj loaded]
      · intro layered
        exact congrArg Except.ok (nothing.unique layered)
  | some path =>
      rw [Settings.load_file_iff]
      constructor
      · rintro ⟨text, members, found, parsed, valid, layered⟩
        exact ⟨members, ⟨text, found, parsed, valid⟩, layered⟩
      · rintro ⟨members, ⟨text, found, parsed, valid⟩, layered⟩
        exact ⟨text, members, found, parsed, valid, layered⟩

theorem schema_path_of_layered
    (layered : Settings.AreLayered invocation.environment members settings) :
    (overlay arguments invocation.environment settings).documents.schemaPath =
      schemaPathGiven arguments invocation.environment members := by
  have path := layered.text .schemaPath
  rw [overlay, schemaPathGiven]
  dsimp only
  cases arguments.value? .schema with
  | some argument => rfl
  | none => exact Option.some.inj (path.trans Option.or_some)

theorem settings_of_configured (configured : IsConfigured invocation arguments members) :
    ∃ settings, settingsOf invocation arguments = .ok settings ∧
      settings.gemini.apiKey = keyGiven invocation.environment members ∧
      settings.documents.schemaPath =
        schemaPathGiven arguments invocation.environment members := by
  obtain ⟨_, plain⟩ := Settings.layered_exists members
  have layered := plain.overlay invocation.environment
  have read := settings_of_load (load_iff.2 ⟨members, configured, layered⟩)
  exact ⟨_, read, (layered.text .apiKey).trans Option.or_none, schema_path_of_layered layered⟩

theorem settings_of_unconfigured
    (unconfigured : ∀ members, ¬IsConfigured invocation arguments members) :
    ∃ error, settingsOf invocation arguments = .error error := by
  cases loaded : Settings.load invocation.files invocation.environment
      (arguments.value? .config) with
  | error error => exact ⟨error, (settings_error_iff error).2 loaded⟩
  | ok settings =>
      obtain ⟨members, configured, _⟩ := load_iff.1 loaded
      exact absurd configured (unconfigured members)

theorem prepare_of_key {key : String} (usable : settings.usableKey = some key) :
    prepare invocation settings = .ok ⟨settings, "", invocation.items⟩ := by
  rw [prepare, usable]

theorem prepare_piped_without_key (piped : invocation.terminal = false)
    (unusable : settings.usableKey = none) :
    prepare invocation settings = .error (failed "" [Settings.missingKeyMessage]) := by
  rw [prepare, unusable, piped]
  rfl

theorem start_without_schema {files : Files}
    (unreadable : ∀ schema, files settings.documents.schemaPath ≠ .ok (Text.Utf8.encode schema)) :
    ∃ error, Agent.start settings files = .error error := by
  cases started : Agent.start settings files with
  | error error => exact ⟨error, rfl⟩
  | ok agent =>
      obtain ⟨_, documents, _, _, areIn, _⟩ := Agent.started_agent started
      exact absurd areIn.schema (unreadable documents.schema)

variable (accepted : parse invocation.arguments = .ok (.run arguments))
include accepted

theorem run_eq_run_with : run invocation = runWith invocation arguments := by
  rw [run, accepted]

/-- A run that is hindered fails and sends nothing. -/
theorem run_hindered (piped : invocation.terminal = false)
    (hindered : IsHindered invocation arguments) :
    ∃ output causes, ∀ network, run invocation network = (failed output causes, network) := by
  rw [run_eq_run_with accepted, runWith]
  cases hindered with
  | file unconfigured =>
      obtain ⟨error, refused⟩ := settings_of_unconfigured unconfigured
      rw [refused]
      exact ⟨_, _, fun _ => rfl⟩
  | key configured blank =>
      obtain ⟨settings, read, given, _⟩ := settings_of_configured configured
      have unusable : settings.usableKey = none := by
        rw [settings.usable_key_eq_none, given]
        exact blank
      rw [read]
      dsimp only
      rw [prepare_piped_without_key piped unusable]
      exact ⟨_, _, fun _ => rfl⟩
  | schema configured unreadable =>
      obtain ⟨settings, read, _, path⟩ := settings_of_configured configured
      rw [read]
      dsimp only
      cases usable : settings.usableKey with
      | none =>
          rw [prepare_piped_without_key piped usable]
          exact ⟨_, _, fun _ => rfl⟩
      | some key =>
          rw [prepare_of_key usable]
          dsimp only
          obtain ⟨error, stopped⟩ : ∃ error, Agent.start settings invocation.files = .error error :=
            start_without_schema (path ▸ unreadable)
          rw [runPrepared, stopped]
          exact ⟨_, _, fun _ => rfl⟩

/-- A run that is not hindered starts its agent, makes it do one thing, and succeeds. -/
theorem run_unhindered (free : ¬IsHindered invocation arguments) :
    ∃ members settings key documents, IsConfigured invocation arguments members ∧
      settingsOf invocation arguments = .ok settings ∧
      keyGiven invocation.environment members = some key ∧ Text.trim key ≠ "" ∧
      documents.AreIn invocation.files settings.documents ∧
      settings.documents.schemaPath = schemaPathGiven arguments invocation.environment members ∧
      ∀ network, run invocation network =
        (succeeded (startNotice ++
          (perform (Agent.live settings (Text.trim key) documents) invocation.items
            (modeOf arguments) network).1),
          (perform (Agent.live settings (Text.trim key) documents) invocation.items
            (modeOf arguments) network).2) := by
  obtain ⟨members, configured⟩ : ∃ members, IsConfigured invocation arguments members := by
    by_contra unconfigured
    exact free (.file fun members configured => unconfigured ⟨members, configured⟩)
  obtain ⟨settings, read, given, path⟩ := settings_of_configured configured
  have speaks : ∃ key, settings.gemini.apiKey = some key ∧ Text.trim key ≠ "" := by
    by_contra silent
    refine free (.key configured fun key same => ?_)
    by_contra speaks
    exact silent ⟨key, given.trans same, speaks⟩
  have readable : ∃ schema, invocation.files settings.documents.schemaPath =
      .ok (Text.Utf8.encode schema) := by
    by_contra unreadable
    refine free (.schema configured fun schema found => ?_)
    exact unreadable ⟨schema, path ▸ found⟩
  obtain ⟨key, isKey, notBlank⟩ := speaks
  obtain ⟨schema, found⟩ := readable
  obtain ⟨agent, started⟩ := Agent.start_of_key isKey notBlank found
  obtain ⟨same, documents, sameKey, _, areIn, rfl⟩ := Agent.started_agent started
  obtain rfl : key = same := Option.some.inj (isKey.symm.trans sameKey)
  have usable := (settings.usable_key_iff _).2 ⟨key, isKey, notBlank, rfl⟩
  refine ⟨members, settings, key, documents, configured, read, given ▸ isKey, notBlank, areIn,
    path, fun network => ?_⟩
  rw [run_prepared accepted read (prepare_of_key usable), runPrepared]
  dsimp only
  rw [started]
  rfl

end Start

/-- Where nobody can be asked for a key, a run fails exactly if it is hindered, and then nothing is
sent. Else it succeeds whatever is answered, with an agent that has the key, the documents in the
files and the other settings; what it wrote and sent is what came of the first thing that it was
asked to do. A flag is set exactly if it is among the arguments, an option has a value exactly if
an argument names it, and then the value that the arguments give it. -/
theorem run_fails_only_hindered {invocation : Invocation} {arguments : Arguments}
    (accepted : parse invocation.arguments = .ok (.run arguments))
    (piped : invocation.terminal = false) :
    (∀ network, (run invocation network).1.exitCode = 1 ↔ IsHindered invocation arguments) ∧
    (IsHindered invocation arguments → ∀ network, (run invocation network).2 = network) ∧
    (¬IsHindered invocation arguments → ∃ members settings key documents,
      IsConfigured invocation arguments members ∧
      settingsOf invocation arguments = .ok settings ∧
      keyGiven invocation.environment members = some key ∧ Text.trim key ≠ "" ∧
      invocation.files (schemaPathGiven arguments invocation.environment members) =
        .ok (Text.Utf8.encode documents.schema) ∧
      documents.AreIn invocation.files settings.documents ∧
      ∀ network, ∃ text after, run invocation network = (⟨0, startNotice ++ text, ""⟩, after) ∧
        ∀ other last, Does (Agent.live settings (Text.trim key) documents) arguments
          (Console.Item.ofInput invocation.input) network other last ↔
            other = text ∧ last = after) ∧
    (∀ flag, arguments.has flag = true ↔ "--" ++ flag.name ∈ invocation.arguments) ∧
    ∀ option, ((arguments.value? option).isSome = true ↔
        ∃ argument ∈ invocation.arguments, option.IsNamed argument) ∧
      ∀ value, arguments.value? option = some value →
        option.IsGiven value invocation.arguments := by
  have items : invocation.items = Console.Item.ofInput invocation.input := by
    rw [Invocation.items, piped]
    rfl
  refine ⟨fun network => ⟨?_, ?_⟩, ?_, ?_, has_flag_iff accepted, fun option =>
    ⟨value_given_iff accepted option, fun _ found => value_is_given accepted found⟩⟩
  · intro failing
    by_contra free
    obtain ⟨_, _, _, _, _, _, _, _, _, _, ran⟩ := run_unhindered accepted free
    rw [ran] at failing
    cases failing
  · intro hindered
    obtain ⟨_, _, ran⟩ := run_hindered accepted piped hindered
    rw [ran]
    rfl
  · intro hindered network
    obtain ⟨_, _, ran⟩ := run_hindered accepted piped hindered
    rw [ran]
  · intro free
    obtain ⟨members, settings, key, documents, configured, read, given, speaks, areIn, path, ran⟩ :=
      run_unhindered accepted free
    refine ⟨members, settings, key, documents, configured, read, given, speaks,
      path ▸ areIn.schema, areIn, fun network => ⟨_, _, ran network, fun other last => ?_⟩⟩
    rw [items]
    exact does_iff

/-- A query that looks like a flag is a query, and is answered whatever becomes of the requests. -/
theorem query_like_flag_is_answered :
    let files : Files := fun path =>
      if path = "s.md" then .ok (Text.Utf8.encode "{}") else .error .notFound
    let environment : Environment := fun name =>
      if name = "GEMINI_API_KEY" then some " k" else if name = "RECON_API_SCHEMA" then some "s.md"
      else none
    let invocation : Invocation := ⟨["--query=--capabilities"], environment, files, [], false⟩
    let arguments : Arguments := ⟨[(.query, "--capabilities")], []⟩
    parse invocation.arguments = .ok (.run arguments) ∧ invocation.terminal = false ∧
      ¬IsHindered invocation arguments ∧
      ∃ agent : Agent (StateM Network), ∀ network, run invocation network =
        (⟨0, startNotice ++ ("Query: --capabilities\nResponse: " ++
          (agent.processQuery "--capabilities" network).1 ++ "\n"), ""⟩,
          (agent.processQuery "--capabilities" network).2) := by
  intro files environment invocation arguments
  have accepted : parse invocation.arguments = .ok (.run arguments) :=
    Json.eq_ok_of_to_option (by decide +kernel)
  have free : ¬IsHindered invocation arguments := by
    intro hindered
    cases hindered with
    | file unconfigured => exact unconfigured [] rfl
    | @key members configured blank =>
        obtain rfl : members = [] := configured
        exact absurd (blank " k" (by decide +kernel)) (by decide +kernel)
    | @schema members configured unreadable =>
        obtain rfl : members = [] := configured
        have path : schemaPathGiven arguments environment [] = "s.md" := by decide +kernel
        exact unreadable "{}" (path ▸ rfl)
  obtain ⟨_, _, runs, _⟩ := run_fails_only_hindered accepted rfl
  obtain ⟨_, settings, key, documents, _, _, _, _, _, _, ran⟩ := runs free
  refine ⟨accepted, rfl, free, Agent.live settings (Text.trim key) documents, fun network => ?_⟩
  obtain ⟨text, after, ended, does⟩ := ran network
  obtain ⟨rfl, rfl⟩ := (does _ _).1 (.answers rfl rfl rfl)
  exact ended

end ReconChat.CommandLine

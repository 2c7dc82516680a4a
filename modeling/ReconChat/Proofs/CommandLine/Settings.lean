import ReconChat.CommandLine.Run
import ReconChat.Proofs.CommandLine.Arguments
import ReconChat.Proofs.Settings.Layers

/-!
The address of Recon in a run of the command line, against the settings that any other program
reads from the same file and environment. Both look at one variable, but only the settings pass
over a blank one: a run without an address among its arguments takes the variable as it is, and a
blank text is then the address of its agent.
-/

namespace ReconChat.CommandLine

variable {invocation : Invocation} {arguments : Arguments} {settings shared own : Settings}
  {prepared : Prepared}

theorem ask_for_key_recon {items : List Console.Item}
    (asked : askForKey settings items = .ok prepared) :
    prepared.settings.recon = settings.recon := by
  unfold askForKey at asked
  split at asked
  · cases asked
  · dsimp only at asked
    split_ifs at asked
    cases asked
    rfl
  · cases asked

theorem prepare_recon (ready : prepare invocation settings = .ok prepared) :
    prepared.settings.recon = settings.recon := by
  rw [prepare] at ready
  split at ready
  · cases ready
    rfl
  · split_ifs at ready
    exact ask_for_key_recon ready

theorem run_prepared (accepted : parse invocation.arguments = .ok (.run arguments))
    (read : settingsOf invocation arguments = .ok own)
    (ready : prepare invocation own = .ok prepared) :
    run invocation = runPrepared invocation.files (modeOf arguments) prepared := by
  rw [run, accepted]
  dsimp only
  rw [runWith, read]
  dsimp only
  rw [ready]

theorem settings_error_iff (error : SettingsError) :
    settingsOf invocation arguments = .error error ↔
      Settings.load invocation.files invocation.environment (arguments.value? .config) =
        .error error := by
  rw [settingsOf]
  cases Settings.load invocation.files invocation.environment (arguments.value? .config) with
  | error other => simp [Except.map]
  | ok shared => simp [Except.map]

theorem settings_of_load
    (loaded : Settings.load invocation.files invocation.environment (arguments.value? .config) =
      .ok shared) :
    settingsOf invocation arguments = .ok (overlay arguments invocation.environment shared) := by
  rw [settingsOf, loaded]
  rfl

/-- Without an argument for it the address is the variable, blank or not. -/
theorem recon_url_of_unnamed (accepted : parse invocation.arguments = .ok (.run arguments))
    (unnamed : ∀ argument ∈ invocation.arguments, ¬ValueOption.reconUrl.IsNamed argument) :
    reconUrl? arguments invocation.environment = invocation.environment "RECON_URL" := by
  rw [reconUrl?, (value_missing_iff accepted .reconUrl).2 unnamed]
  rfl

/-- Without an address among its arguments a run fails to read its settings exactly if any other
program does, and with the same error. Else its agent is built with the address that the variable
has, if it is set, and with the shared one if not. The two addresses are the same exactly if the
variable is unset, not blank, or blank in the way the shared address happens to be. -/
theorem agent_address_agrees_iff {invocation : Invocation} {arguments : Arguments}
    (accepted : parse invocation.arguments = .ok (.run arguments))
    (unnamed : ∀ argument ∈ invocation.arguments, ¬ValueOption.reconUrl.IsNamed argument) :
    let loaded :=
      Settings.load invocation.files invocation.environment (arguments.value? .config)
    (∀ error, settingsOf invocation arguments = .error error ↔ loaded = .error error) ∧
    ∀ shared, loaded = .ok shared → ∃ own, settingsOf invocation arguments = .ok own ∧
      ∀ prepared, prepare invocation own = .ok prepared →
        run invocation = runPrepared invocation.files (modeOf arguments) prepared ∧
        prepared.settings.recon.baseUrl =
          (invocation.environment "RECON_URL").getD shared.recon.baseUrl ∧
        (prepared.settings.recon.baseUrl = shared.recon.baseUrl ↔
          ∀ text, invocation.environment "RECON_URL" = some text → Text.trim text = "" →
            text = shared.recon.baseUrl) := by
  intro loaded
  refine ⟨settings_error_iff, fun shared read => ?_⟩
  refine ⟨_, settings_of_load read, fun prepared ready => ?_⟩
  have address : prepared.settings.recon.baseUrl =
      (invocation.environment "RECON_URL").getD shared.recon.baseUrl := by
    rw [prepare_recon ready, ← recon_url_of_unnamed accepted unnamed]
    rfl
  refine ⟨run_prepared accepted (settings_of_load read) ready, address, ?_⟩
  rw [address]
  cases set : invocation.environment "RECON_URL" with
  | none => simp
  | some text =>
      rw [Option.getD_some]
      constructor
      · rintro same other given -
        rw [← Option.some.inj given, same]
      · intro blanks
        by_cases blank : Text.trim text = ""
        · exact blanks text rfl blank
        · have spoken : Settings.said invocation.environment "RECON_URL" = some text := by
            simp [Settings.said, set, blank]
          exact (Option.some.inj (Settings.value_of_said read .reconUrl spoken)).symm

/-- Without the variable a run and any other program have the address of the file. -/
theorem unset_variable_leaves_file :
    let content := "[gemini]\napi_key = \"k\"\n[recon]\nbase_url = \"http://r\"\n"
    let files : Files := fun _ => .ok (Text.Utf8.encode content)
    let invocation : Invocation :=
      ⟨["--config", "c.toml", "--query=--recon-url"], fun _ => none, files, [], false⟩
    ∃ arguments shared own prepared, parse invocation.arguments = .ok (.run arguments) ∧
      (∀ argument ∈ invocation.arguments, ¬ValueOption.reconUrl.IsNamed argument) ∧
      Settings.load files invocation.environment (arguments.value? .config) = .ok shared ∧
      settingsOf invocation arguments = .ok own ∧
      prepare invocation own = .ok prepared ∧
      prepared.settings.recon.baseUrl = shared.recon.baseUrl ∧
      shared.recon.baseUrl = "http://r" := by
  intro content files invocation
  let arguments : Arguments := ⟨[(.config, "c.toml"), (.query, "--recon-url")], []⟩
  let shared : Settings :=
    { Settings.standard with
      gemini := ⟨some "k", Settings.standard.gemini.model, Settings.standard.gemini.baseUrl, none⟩
      recon := ⟨"http://r", none⟩ }
  have accepted : parse invocation.arguments = .ok (.run arguments) :=
    Json.eq_ok_of_to_option (by decide +kernel)
  have unnamed : ∀ argument ∈ invocation.arguments, ¬ValueOption.reconUrl.IsNamed argument :=
    (value_missing_iff accepted .reconUrl).1 rfl
  have loaded : Settings.load files invocation.environment (arguments.value? .config) =
      .ok shared := Json.eq_ok_of_to_option (by decide +kernel)
  obtain ⟨own, read, agent⟩ := (agent_address_agrees_iff accepted unnamed).2 shared loaded
  obtain rfl : shared = own := by
    rw [settings_of_load loaded] at read
    exact (show _ = shared from by decide +kernel).symm.trans (Except.ok.inj read)
  have usable : shared.usableKey = some "k" := by decide +kernel
  have ready : prepare invocation shared = .ok ⟨shared, "", invocation.items⟩ := by
    rw [prepare, usable]
  obtain ⟨_, _, agrees⟩ := agent _ ready
  exact ⟨arguments, shared, shared, _, accepted, unnamed, loaded, read, ready,
    agrees.2 nofun, rfl⟩

/-- A variable that is set to nothing takes the place of the address in the file. -/
theorem blank_variable_displaces_file :
    let content := "[gemini]\napi_key = \"filekey\"\n[recon]\nbase_url = \"http://file-r.test\"\n"
    let files : Files := fun _ => .ok (Text.Utf8.encode content)
    let environment : Environment := fun name => if name = "RECON_URL" then some "" else none
    let invocation : Invocation :=
      ⟨["--config", "c.toml", "--test-connections"], environment, files, [], false⟩
    ∃ arguments shared own prepared, parse invocation.arguments = .ok (.run arguments) ∧
      (∀ argument ∈ invocation.arguments, ¬ValueOption.reconUrl.IsNamed argument) ∧
      Settings.load files environment (arguments.value? .config) = .ok shared ∧
      settingsOf invocation arguments = .ok own ∧
      prepare invocation own = .ok prepared ∧
      shared.recon.baseUrl = "http://file-r.test" ∧
      prepared.settings.recon.baseUrl = "" := by
  intro content files environment invocation
  let arguments : Arguments := ⟨[(.config, "c.toml")], [.testConnections]⟩
  let shared : Settings :=
    { Settings.standard with
      gemini :=
        ⟨some "filekey", Settings.standard.gemini.model, Settings.standard.gemini.baseUrl, none⟩
      recon := ⟨"http://file-r.test", none⟩ }
  have accepted : parse invocation.arguments = .ok (.run arguments) :=
    Json.eq_ok_of_to_option (by decide +kernel)
  have unnamed : ∀ argument ∈ invocation.arguments, ¬ValueOption.reconUrl.IsNamed argument :=
    (value_missing_iff accepted .reconUrl).1 rfl
  have loaded : Settings.load files environment (arguments.value? .config) = .ok shared :=
    Json.eq_ok_of_to_option (by decide +kernel)
  have usable : (overlay arguments environment shared).usableKey = some "filekey" := by
    decide +kernel
  have ready : prepare invocation (overlay arguments environment shared) =
      .ok ⟨overlay arguments environment shared, "", invocation.items⟩ := by
    rw [prepare, usable]
  exact ⟨arguments, shared, _, _, accepted, unnamed, loaded, settings_of_load loaded, ready, rfl,
    rfl⟩

end ReconChat.CommandLine

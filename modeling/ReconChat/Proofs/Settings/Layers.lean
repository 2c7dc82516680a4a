import ReconChat.Proofs.Agent.Start
import ReconChat.Proofs.Json.Reading
import ReconChat.Settings.File

/-!
Settings in layers: the environment over the file over the defaults. Each setting is settled by its
own variable and its own place in the file. A table that a file leaves out, one that it leaves empty
and one that it fills in part have the same defaults, which are also those of a run without a file.
How the text of a file comes to say what it says is left to the reader of TOML.
-/

namespace ReconChat.Settings

open Toml (Members Node)

inductive Table where
  | gemini
  | recon
  | documents

namespace Table

def name : Table → String
  | .gemini => "gemini"
  | .recon => "recon"
  | .documents => "docs"

def fieldNames : Table → List String
  | .gemini => geminiNames
  | .recon => reconNames
  | .documents => documentNames

/-- The fields of a table. A missing table has as many as an empty one. -/
def fields (table : Table) (members : Members) : Option Members :=
  match members.find? table.name with
  | none => some []
  | some node => fieldsOf table.fieldNames node

def written (table : Table) (members : Members) (name : String) : Option Node :=
  (table.fields members).bind (·.find? name)

end Table

inductive TextSetting where
  | apiKey
  | model
  | geminiUrl
  | reconUrl
  | schemaPath
  | guidePath

namespace TextSetting

def variableName : TextSetting → String
  | .apiKey => "GEMINI_API_KEY"
  | .model => "GEMINI_MODEL"
  | .geminiUrl => "GEMINI_BASE_URL"
  | .reconUrl => "RECON_URL"
  | .schemaPath => "RECON_API_SCHEMA"
  | .guidePath => "RECON_API_GUIDE"

def table : TextSetting → Table
  | .apiKey => .gemini
  | .model => .gemini
  | .geminiUrl => .gemini
  | .reconUrl => .recon
  | .schemaPath => .documents
  | .guidePath => .documents

def fieldName : TextSetting → String
  | .apiKey => "api_key"
  | .model => "model"
  | .geminiUrl => "base_url"
  | .reconUrl => "base_url"
  | .schemaPath => "schema_path"
  | .guidePath => "guide_path"

/-- What some settings have for this one. Only the key may be missing. -/
def valueIn (settings : Settings) : TextSetting → Option String
  | .apiKey => settings.gemini.apiKey
  | .model => some settings.gemini.model
  | .geminiUrl => some settings.gemini.baseUrl
  | .reconUrl => some settings.recon.baseUrl
  | .schemaPath => some settings.documents.schemaPath
  | .guidePath => some settings.documents.guidePath

def written (setting : TextSetting) (members : Members) : Option Node :=
  setting.table.written members setting.fieldName

end TextSetting

inductive Timeout where
  | gemini
  | recon

namespace Timeout

def table : Timeout → Table
  | .gemini => .gemini
  | .recon => .recon

def valueIn (settings : Settings) : Timeout → Option Nat
  | .gemini => settings.gemini.timeout
  | .recon => settings.recon.timeout

def written (timeout : Timeout) (members : Members) : Option Node :=
  timeout.table.written members "timeout_secs"

end Timeout

def textOf : Node → Option String
  | .string text => some text
  | _ => none

def secondsOf : Node → Option Nat
  | .integer (.ofNat seconds) => some seconds
  | _ => none

/-- Does a place hold nothing, or something of the right kind? -/
def Fits {Kind : Type} (read : Node → Option Kind) (found : Option Node) : Prop :=
  ∀ node, found = some node → (read node).isSome = true

/-- A file whose tables are tables and whose fields are of their kinds. What else it has is free. -/
structure IsValid (members : Members) : Prop where
  tables : ∀ table : Table, (table.fields members).isSome = true
  texts : ∀ setting : TextSetting, Fits textOf (setting.written members)
  timeouts : ∀ timeout : Timeout, Fits secondsOf (timeout.written members)

/-- A variable that is set and not blank, as it is. -/
def said (environment : Environment) (name : String) : Option String :=
  (environment name).filter fun text => Text.trim text ≠ ""

/-- Settings as the environment, a file and the defaults make them. -/
structure AreLayered (environment : Environment) (members : Members) (settings : Settings) :
    Prop where
  text : ∀ setting : TextSetting, setting.valueIn settings =
    ((said environment setting.variableName).or ((setting.written members).bind textOf)).or
      (setting.valueIn standard)
  timeout : ∀ timeout : Timeout, timeout.valueIn settings =
    (timeout.written members).bind secondsOf

theorem eq_of_values {settings others : Settings}
    (texts : ∀ setting : TextSetting, setting.valueIn settings = setting.valueIn others)
    (timeouts : ∀ timeout : Timeout, timeout.valueIn settings = timeout.valueIn others) :
    settings = others := by
  obtain ⟨⟨apiKey, model, geminiUrl, geminiTimeout⟩, ⟨reconUrl, reconTimeout⟩,
    ⟨schemaPath, guidePath⟩⟩ := settings
  obtain rfl : apiKey = _ := texts .apiKey
  obtain rfl : model = _ := Option.some.inj (texts .model)
  obtain rfl : geminiUrl = _ := Option.some.inj (texts .geminiUrl)
  obtain rfl : geminiTimeout = _ := timeouts .gemini
  obtain rfl : reconUrl = _ := Option.some.inj (texts .reconUrl)
  obtain rfl : reconTimeout = _ := timeouts .recon
  obtain rfl : schemaPath = _ := Option.some.inj (texts .schemaPath)
  obtain rfl : guidePath = _ := Option.some.inj (texts .guidePath)
  rfl

section Environment

variable (environment : Environment) (settings : Settings)

theorem spoken_eq_said (name : String) : environment.spoken? name = said environment name := by
  rw [Environment.spoken?, said]
  cases environment name with
  | none => rfl
  | some text =>
      rw [Option.bind_some, Text.unlessBlank, Option.filter_some]
      cases blank : Text.allBlank text <;> simp [Text.trim_eq_empty, blank]

theorem value_in_overlay (setting : TextSetting) :
    setting.valueIn (overlay environment settings) =
      (said environment setting.variableName).or (setting.valueIn settings) := by
  rw [← spoken_eq_said]
  cases setting with
  | apiKey => exact Option.orElse_eq_or
  | _ => exact Option.or_some.symm

theorem timeout_in_overlay (timeout : Timeout) :
    timeout.valueIn (overlay environment settings) = timeout.valueIn settings := by
  cases timeout <;> rfl

theorem overlay_overlay :
    overlay environment (overlay environment settings) = overlay environment settings := by
  refine eq_of_values ?_ ?_
  · intro setting
    rw [value_in_overlay, value_in_overlay, ← Option.or_assoc, Option.or_self]
  · intro timeout
    exact timeout_in_overlay _ _ _

end Environment

section File

theorem fits_none {Kind : Type} (read : Node → Option Kind) : Fits read none := nofun

theorem fits_some {Kind : Type} {read : Node → Option Kind} {node : Node} :
    Fits read (some node) ↔ (read node).isSome = true :=
  ⟨fun fits => fits node rfl, fun kind _ same => Option.some.inj same ▸ kind⟩

theorem text_field_iff {name preset text : String} {fields : Members} :
    textField name preset fields = some text ↔
      Fits textOf (fields.find? name) ∧
        ((fields.find? name).bind textOf).or (some preset) = some text := by
  rw [textField]
  cases fields.find? name with
  | none => simp [fits_none]
  | some node => cases node <;> simp [fits_some, textOf]

theorem optional_text_field_iff {name : String} {text : Option String} {fields : Members} :
    optionalTextField name fields = some text ↔
      Fits textOf (fields.find? name) ∧ (fields.find? name).bind textOf = text := by
  rw [optionalTextField]
  cases fields.find? name with
  | none => simp [fits_none]
  | some node => cases node <;> simp [fits_some, textOf]

theorem seconds_field_iff {name : String} {seconds : Option Nat} {fields : Members} :
    secondsField name fields = some seconds ↔
      Fits secondsOf (fields.find? name) ∧ (fields.find? name).bind secondsOf = seconds := by
  rw [secondsField]
  cases fields.find? name with
  | none => simp [fits_none]
  | some node =>
      cases node with
      | integer value => cases value <;> simp [fits_some, secondsOf]
      | _ => simp [fits_some, secondsOf]

variable {members : Members}

/-- A table that is missing is read as an empty one, provided that an empty one has the defaults. -/
theorem table_or_iff {Fields : Type} {readFields : Members → Option Fields} {given : Fields}
    (table : Table) (preset : Fields) (read : Node → Option Fields)
    (fields : ∀ node, read node = (fieldsOf table.fieldNames node).bind readFields)
    (nothing : readFields [] = some preset) :
    tableOr preset read (members.find? table.name) = some given ↔
      ∃ fields, table.fields members = some fields ∧ readFields fields = some given := by
  rw [← Option.bind_eq_some_iff, Table.fields]
  cases members.find? table.name with
  | none => rw [tableOr, ← nothing, Option.bind_some]
  | some node => rw [tableOr, fields]

def TextSetting.IsRead (setting : TextSetting) (members : Members) (value : Option String) : Prop :=
  Fits textOf (setting.written members) ∧
    ((setting.written members).bind textOf).or (setting.valueIn standard) = value

def Timeout.IsRead (timeout : Timeout) (members : Members) (value : Option Nat) : Prop :=
  Fits secondsOf (timeout.written members) ∧ (timeout.written members).bind secondsOf = value

theorem gemini_table_iff (gemini : GeminiSettings) :
    tableOr standard.gemini geminiOf (members.find? "gemini") = some gemini ↔
      (Table.gemini.fields members).isSome = true ∧
      TextSetting.apiKey.IsRead members gemini.apiKey ∧
      TextSetting.model.IsRead members (some gemini.model) ∧
      TextSetting.geminiUrl.IsRead members (some gemini.baseUrl) ∧
      Timeout.gemini.IsRead members gemini.timeout := by
  refine (table_or_iff .gemini standard.gemini geminiOf (fun _ => rfl) rfl).trans ?_
  simp only [TextSetting.IsRead, TextSetting.written, TextSetting.table, Timeout.IsRead,
    Timeout.written, Timeout.table, Table.written]
  cases Table.gemini.fields members with
  | none => simp
  | some fields =>
      cases gemini
      simp [Option.bind_eq_some_iff, text_field_iff, optional_text_field_iff, seconds_field_iff,
        TextSetting.fieldName, TextSetting.valueIn, standard, and_assoc, and_left_comm]

theorem recon_table_iff (recon : ReconSettings) :
    tableOr standard.recon reconOf (members.find? "recon") = some recon ↔
      (Table.recon.fields members).isSome = true ∧
      TextSetting.reconUrl.IsRead members (some recon.baseUrl) ∧
      Timeout.recon.IsRead members recon.timeout := by
  refine (table_or_iff .recon standard.recon reconOf (fun _ => rfl) rfl).trans ?_
  simp only [TextSetting.IsRead, TextSetting.written, TextSetting.table, Timeout.IsRead,
    Timeout.written, Timeout.table, Table.written]
  cases Table.recon.fields members with
  | none => simp
  | some fields =>
      cases recon
      simp [Option.bind_eq_some_iff, text_field_iff, seconds_field_iff, TextSetting.fieldName,
        TextSetting.valueIn]

theorem documents_table_iff (documents : DocumentSettings) :
    tableOr standard.documents documentsOf (members.find? "docs") = some documents ↔
      (Table.documents.fields members).isSome = true ∧
      TextSetting.schemaPath.IsRead members (some documents.schemaPath) ∧
      TextSetting.guidePath.IsRead members (some documents.guidePath) := by
  refine (table_or_iff .documents standard.documents documentsOf (fun _ => rfl) rfl).trans ?_
  simp only [TextSetting.IsRead, TextSetting.written, TextSetting.table, Table.written]
  cases Table.documents.fields members with
  | none => simp
  | some fields =>
      cases documents
      simp [Option.bind_eq_some_iff, text_field_iff, TextSetting.fieldName, TextSetting.valueIn]

theorem of_members_iff (settings : Settings) :
    ofMembers members = some settings ↔
      IsValid members ∧ AreLayered (fun _ => none) members settings := by
  obtain ⟨gemini, recon, documents⟩ := settings
  simp only [ofMembers, Option.bind_eq_bind, Option.bind_eq_some_iff, Option.some.injEq,
    Settings.mk.injEq, gemini_table_iff, recon_table_iff, documents_table_iff]
  constructor
  · rintro ⟨gemini, ⟨geminiTable, key, model, geminiUrl, geminiTimeout⟩,
      recon, ⟨reconTable, reconUrl, reconTimeout⟩,
      documents, ⟨documentTable, schemaPath, guidePath⟩, rfl, rfl, rfl⟩
    have tables (table : Table) : (table.fields members).isSome = true := by
      cases table with
      | gemini => exact geminiTable
      | recon => exact reconTable
      | documents => exact documentTable
    have read (setting : TextSetting) :
        setting.IsRead members (setting.valueIn ⟨gemini, recon, documents⟩) := by
      cases setting with
      | apiKey => exact key
      | model => exact model
      | geminiUrl => exact geminiUrl
      | reconUrl => exact reconUrl
      | schemaPath => exact schemaPath
      | guidePath => exact guidePath
    have timed (timeout : Timeout) :
        timeout.IsRead members (timeout.valueIn ⟨gemini, recon, documents⟩) := by
      cases timeout with
      | gemini => exact geminiTimeout
      | recon => exact reconTimeout
    exact ⟨⟨tables, fun setting => (read setting).1, fun timeout => (timed timeout).1⟩,
      ⟨fun setting => (read setting).2.symm, fun timeout => (timed timeout).2.symm⟩⟩
  · rintro ⟨⟨tables, texts, timeouts⟩, ⟨text, timeout⟩⟩
    have read (setting : TextSetting) :
        setting.IsRead members (setting.valueIn ⟨gemini, recon, documents⟩) :=
      ⟨texts setting, (text setting).symm⟩
    have timed (place : Timeout) :
        place.IsRead members (place.valueIn ⟨gemini, recon, documents⟩) :=
      ⟨timeouts place, (timeout place).symm⟩
    exact ⟨gemini,
      ⟨tables .gemini, read .apiKey, read .model, read .geminiUrl, timed .gemini⟩,
      recon, ⟨tables .recon, read .reconUrl, timed .recon⟩,
      documents, ⟨tables .documents, read .schemaPath, read .guidePath⟩, rfl, rfl, rfl⟩

end File

section Layers

variable {environment other : Environment} {members others : Members}
  {settings otherSettings : Settings}

theorem said_nothing (name : String) : said (fun _ => none) name = none := rfl

theorem layered_exists (members : Members) :
    ∃ settings, AreLayered (fun _ => none) members settings := by
  let text (setting : TextSetting) := (setting.written members).bind textOf
  let seconds (timeout : Timeout) := (timeout.written members).bind secondsOf
  refine ⟨⟨⟨text .apiKey, (text .model).getD standard.gemini.model,
      (text .geminiUrl).getD standard.gemini.baseUrl, seconds .gemini⟩,
    ⟨(text .reconUrl).getD standard.recon.baseUrl, seconds .recon⟩,
    ⟨(text .schemaPath).getD standard.documents.schemaPath,
      (text .guidePath).getD standard.documents.guidePath⟩⟩, ?_, ?_⟩
  · intro setting
    rw [said_nothing, Option.none_or]
    cases setting with
    | apiKey => exact Option.or_none.symm
    | _ => exact Option.or_some.symm
  · intro timeout
    cases timeout <;> rfl

theorem AreLayered.overlay (layered : AreLayered (fun _ => none) members settings)
    (environment : Environment) :
    AreLayered environment members (overlay environment settings) := by
  constructor
  · intro setting
    rw [value_in_overlay, layered.text, said_nothing, Option.none_or, Option.or_assoc]
  · intro timeout
    rw [timeout_in_overlay, layered.timeout]

/-- A setting is settled by its own variable and its own place in the file. -/
theorem AreLayered.text_eq (layered : AreLayered environment members settings)
    (otherLayered : AreLayered other others otherSettings) {setting : TextSetting}
    (same : environment setting.variableName = other setting.variableName)
    (places : setting.written members = setting.written others) :
    setting.valueIn settings = setting.valueIn otherSettings := by
  rw [layered.text, otherLayered.text, said, said, same, places]

theorem AreLayered.timeout_eq (layered : AreLayered environment members settings)
    (otherLayered : AreLayered other others otherSettings) {timeout : Timeout}
    (places : timeout.written members = timeout.written others) :
    timeout.valueIn settings = timeout.valueIn otherSettings := by
  rw [layered.timeout, otherLayered.timeout, places]

theorem AreLayered.unique (layered : AreLayered environment members settings)
    (otherLayered : AreLayered environment members otherSettings) : settings = otherSettings :=
  eq_of_values (fun _ => layered.text_eq otherLayered rfl rfl)
    fun _ => layered.timeout_eq otherLayered rfl

theorem of_environment_layered (environment : Environment)
    (texts : ∀ setting : TextSetting, setting.written members = none)
    (timeouts : ∀ timeout : Timeout, timeout.written members = none) :
    AreLayered environment members (ofEnvironment environment) := by
  refine AreLayered.overlay ⟨?_, ?_⟩ environment
  · intro setting
    rw [texts, said_nothing, Option.bind_none, Option.none_or, Option.none_or]
  · intro timeout
    rw [timeouts]
    cases timeout <;> rfl

variable {files : Files} {path : String}

theorem of_file_iff :
    ofFile files path = .ok settings ↔
      ∃ text members, files path = .ok (Text.Utf8.encode text) ∧
        Toml.parse text = some members ∧ ofMembers members = some settings := by
  simp only [← Files.read_text_iff]
  rw [ofFile]
  cases files.readText path with
  | error error => simp
  | ok text =>
      have read : (∃ members, Toml.parse text = some members ∧ ofMembers members = some settings) ↔
          ofText text = some settings := by
        rw [ofText, Option.bind_eq_some_iff]
      simp only [Except.ok.injEq, exists_and_left, exists_eq_left', read]
      cases ofText text <;> simp

theorem load_file_iff :
    load files environment (some path) = .ok settings ↔
      ∃ text members, files path = .ok (Text.Utf8.encode text) ∧
        Toml.parse text = some members ∧ IsValid members ∧
        AreLayered environment members settings := by
  constructor
  · intro loaded
    rw [load] at loaded
    obtain ⟨given, read, rfl⟩ := Json.map_eq_ok loaded
    obtain ⟨text, members, found, parsed, accepted⟩ := of_file_iff.1 read
    obtain ⟨valid, layered⟩ := (of_members_iff given).1 accepted
    exact ⟨text, members, found, parsed, valid, layered.overlay environment⟩
  · rintro ⟨text, members, found, parsed, valid, layered⟩
    obtain ⟨given, plain⟩ := layered_exists members
    have read : ofFile files path = .ok given :=
      of_file_iff.2 ⟨text, members, found, parsed, (of_members_iff given).2 ⟨valid, plain⟩⟩
    rw [load, read, layered.unique (plain.overlay environment)]
    rfl

theorem overlay_of_load {path : Option String}
    (loaded : load files environment path = .ok settings) :
    ∃ given, Settings.overlay environment given = settings := by
  cases path with
  | none => exact ⟨_, Except.ok.inj loaded⟩
  | some path =>
      rw [load] at loaded
      obtain ⟨given, _, same⟩ := Json.map_eq_ok loaded
      exact ⟨given, same⟩

theorem value_of_said {path : Option String} {text : String}
    (loaded : load files environment path = .ok settings) (setting : TextSetting)
    (spoken : said environment setting.variableName = some text) :
    setting.valueIn settings = some text := by
  obtain ⟨given, rfl⟩ := overlay_of_load loaded
  rw [value_in_overlay, spoken, Option.some_or]

end Layers

/-- Each setting comes from its variable, unless that is unset or blank, else from its place in the
file, else from the defaults; timeouts come from the file alone. Files are accepted exactly if they
are valid. Settings do not depend on each other's places and variables, going over them once more
changes nothing, and a file that says nothing of them is as good as none. -/
theorem settings_come_in_layers (files : Files) (environment : Environment) (path : String) :
    (∀ text members, files path = .ok (Text.Utf8.encode text) → Toml.parse text = some members →
      IsValid members → ∃ settings, load files environment (some path) = .ok settings ∧
        AreLayered environment members settings) ∧
    (∀ settings, load files environment (some path) = .ok settings →
      ∃ text members, files path = .ok (Text.Utf8.encode text) ∧ Toml.parse text = some members ∧
        IsValid members ∧ AreLayered environment members settings) ∧
    (∀ members settings, AreLayered environment members settings →
      ((∀ setting : TextSetting, setting.written members = none) →
        (∀ timeout : Timeout, timeout.written members = none) →
          load files environment none = .ok settings) ∧
      ∀ other others otherSettings, AreLayered other others otherSettings →
        (∀ setting : TextSetting,
          environment setting.variableName = other setting.variableName →
          setting.written members = setting.written others →
            setting.valueIn settings = setting.valueIn otherSettings) ∧
        ∀ timeout : Timeout, timeout.written members = timeout.written others →
          timeout.valueIn settings = timeout.valueIn otherSettings) ∧
    (files path = .ok [] →
      load files environment (some path) = load files environment none) ∧
    ∀ settings, overlay environment (overlay environment settings) =
      overlay environment settings := by
  refine ⟨?_, fun settings => load_file_iff.1, ?_, ?_, overlay_overlay environment⟩
  · intro text members found parsed valid
    obtain ⟨given, plain⟩ := layered_exists members
    have layered := plain.overlay environment
    exact ⟨_, load_file_iff.2 ⟨text, members, found, parsed, valid, layered⟩, layered⟩
  · intro members settings layered
    constructor
    · intro texts timeouts
      rw [load, layered.unique (of_environment_layered environment texts timeouts)]
    · intro other others otherSettings otherLayered
      exact ⟨fun setting => layered.text_eq otherLayered,
        fun timeout => layered.timeout_eq otherLayered⟩
  · intro empty
    have texts (setting : TextSetting) : setting.written [] = none := by cases setting <;> rfl
    have timeouts (timeout : Timeout) : timeout.written [] = none := by cases timeout <;> rfl
    refine load_file_iff.2 ⟨"", [], empty, rfl, ⟨?_, ?_, ?_⟩,
      of_environment_layered environment texts timeouts⟩
    · intro table
      cases table <;> rfl
    · intro setting
      rw [texts]
      exact fits_none textOf
    · intro timeout
      rw [timeouts]
      exact fits_none secondsOf

/-- A file that fills one table in part, leaves one empty and has one that nobody asks for, under
a blank variable and one with a blank in front. -/
theorem partial_file_keeps_defaults :
    let content := "[gemini]\nmodel = \"m\"\ntimeout_secs = 5\n[recon]\n[other]\nmodel = 1\n"
    let files : Files := fun _ => .ok (Text.Utf8.encode content)
    let environment : Environment := fun name =>
      if name = "GEMINI_MODEL" then some " " else if name = "RECON_URL" then some " r" else none
    let settings : Settings :=
      { standard with
        gemini := ⟨none, "m", standard.gemini.baseUrl, some 5⟩
        recon := ⟨" r", none⟩ }
    load files environment (some "f") = .ok settings ∧
      ∃ members, Toml.parse content = some members ∧ IsValid members ∧
        AreLayered environment members settings := by
  intro content files environment settings
  have loaded : load files environment (some "f") = .ok settings :=
    Json.eq_ok_of_to_option (by decide +kernel)
  obtain ⟨valid, accepted, _⟩ := settings_come_in_layers files environment "f"
  obtain ⟨text, members, found, parsed, isValid, layered⟩ := accepted settings loaded
  obtain rfl : content = text := Text.Utf8.encode_injective (Except.ok.inj found)
  exact ⟨loaded, members, parsed, isValid, layered⟩

end ReconChat.Settings

import ReconChat.Settings.Basic
import ReconChat.Toml.Reader

/-!
Settings from a TOML file. Each of the three tables and each of their fields may be missing and
then has its default; names that are not known do not count. A table may also be written as an
array of its fields in order, of which the last ones may be missing and more than all are passed
over. A date or time in the place of a table holds none of the fields.
-/

namespace ReconChat

open Toml (Node Members)

inductive SettingsError where
  | unreadable (path : String) (error : ReadError)
  | invalid (path : String)
deriving DecidableEq

def SettingsError.causes : SettingsError → List String
  | .unreadable path error =>
      [s!"failed to read config file {path}: {error.message}", error.message]
  | .invalid path => [s!"invalid config file {path}: not a table of settings"]

def SettingsError.message (error : SettingsError) : String := error.causes.headD ""

namespace Settings

def fieldsOf (names : List String) : Node → Option Members
  | .table _ members => some members
  | .inlineTable members => some members
  | .moment => some []
  | .array items => some (names.zip items)
  | .series latest earlier =>
      some (names.zip ((latest :: earlier).reverse.map fun members => .table .header members))
  | _ => none

def textField (name standard : String) (members : Members) : Option String :=
  match members.find? name with
  | none => some standard
  | some (.string text) => some text
  | some _ => none

def optionalTextField (name : String) (members : Members) : Option (Option String) :=
  match members.find? name with
  | none => some none
  | some (.string text) => some (some text)
  | some _ => none

def secondsField (name : String) (members : Members) : Option (Option Nat) :=
  match members.find? name with
  | none => some none
  | some (.integer (.ofNat seconds)) => some (some seconds)
  | some _ => none

def geminiNames : List String := ["api_key", "model", "base_url", "timeout_secs"]

def reconNames : List String := ["base_url", "timeout_secs"]

def documentNames : List String := ["schema_path", "guide_path"]

def geminiOf (node : Node) : Option GeminiSettings := do
  let members ← fieldsOf geminiNames node
  let apiKey ← optionalTextField "api_key" members
  let model ← textField "model" standard.gemini.model members
  let baseUrl ← textField "base_url" standard.gemini.baseUrl members
  let timeout ← secondsField "timeout_secs" members
  some ⟨apiKey, model, baseUrl, timeout⟩

def reconOf (node : Node) : Option ReconSettings := do
  let members ← fieldsOf reconNames node
  let baseUrl ← textField "base_url" standard.recon.baseUrl members
  let timeout ← secondsField "timeout_secs" members
  some ⟨baseUrl, timeout⟩

def documentsOf (node : Node) : Option DocumentSettings := do
  let members ← fieldsOf documentNames node
  let schemaPath ← textField "schema_path" standard.documents.schemaPath members
  let guidePath ← textField "guide_path" standard.documents.guidePath members
  some ⟨schemaPath, guidePath⟩

def tableOr {Fields : Type} (standard : Fields) (read : Node → Option Fields) :
    Option Node → Option Fields
  | none => some standard
  | some node => read node

def ofMembers (members : Members) : Option Settings := do
  let gemini ← tableOr standard.gemini geminiOf (members.find? "gemini")
  let recon ← tableOr standard.recon reconOf (members.find? "recon")
  let documents ← tableOr standard.documents documentsOf (members.find? "docs")
  some ⟨gemini, recon, documents⟩

def ofText (text : String) : Option Settings := (Toml.parse text).bind ofMembers

def ofFile (files : Files) (path : String) : Except SettingsError Settings :=
  match files.readText path with
  | .error error => .error (.unreadable path error)
  | .ok text =>
      match ofText text with
      | none => .error (.invalid path)
      | some settings => .ok settings

def load (files : Files) (environment : Environment) :
    (path : Option String) → Except SettingsError Settings
  | none => .ok (ofEnvironment environment)
  | some path => (ofFile files path).map (overlay environment)

end Settings

end ReconChat

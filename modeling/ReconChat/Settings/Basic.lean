import ReconChat.Documents.Basic
import ReconChat.Environment
import ReconChat.Text.Shown

/-!
Settings of the chatbot. Each has a default; the environment overrides single texts. A variable
that is blank counts as not set; one that is not blank is taken as it is, blanks around it
included. The two timeouts are no concern of the environment. The API key is never shown.
-/

namespace ReconChat

structure GeminiSettings where
  apiKey : Option String
  model : String
  baseUrl : String
  timeout : Option Nat
deriving DecidableEq

structure ReconSettings where
  baseUrl : String
  timeout : Option Nat
deriving DecidableEq

structure DocumentSettings where
  schemaPath : String
  guidePath : String
deriving DecidableEq

structure Settings where
  gemini : GeminiSettings
  recon : ReconSettings
  documents : DocumentSettings
deriving DecidableEq

namespace Settings

def standard : Settings where
  gemini := ⟨none, "gemini-2.5-flash", "https://generativelanguage.googleapis.com", none⟩
  recon := ⟨"http://localhost:9888", none⟩
  documents := ⟨Documents.bundledSchemaPath, Documents.bundledGuidePath⟩

def overlay (environment : Environment) (settings : Settings) : Settings where
  gemini :=
    { settings.gemini with
      apiKey := environment.spoken? "GEMINI_API_KEY" <|> settings.gemini.apiKey
      model := (environment.spoken? "GEMINI_MODEL").getD settings.gemini.model
      baseUrl := (environment.spoken? "GEMINI_BASE_URL").getD settings.gemini.baseUrl }
  recon :=
    { settings.recon with
      baseUrl := (environment.spoken? "RECON_URL").getD settings.recon.baseUrl }
  documents :=
    { schemaPath :=
        (environment.spoken? "RECON_API_SCHEMA").getD settings.documents.schemaPath
      guidePath := (environment.spoken? "RECON_API_GUIDE").getD settings.documents.guidePath }

def ofEnvironment (environment : Environment) : Settings := overlay environment standard

/-- The API key without blanks around it, if anything is left of it. -/
def usableKey (settings : Settings) : Option String :=
  (settings.gemini.apiKey.map Text.trim).bind Text.unlessBlank

def missingKeyMessage : String := "GEMINI_API_KEY is not set"

end Settings

/-- The settings of the model as shown: that there is a key, not which. -/
def GeminiSettings.shown (settings : GeminiSettings) : String :=
  let timeout :=
    match settings.timeout with
    | some seconds => s!"Some({seconds})"
    | none => "None"
  "GeminiConfig \x7b api_key: " ++ Text.shownOptional (settings.apiKey.map fun _ => "<redacted>") ++
    ", model: " ++ Text.shown settings.model ++ ", base_url: " ++ Text.shown settings.baseUrl ++
    ", timeout_secs: " ++ timeout ++ " \x7d"

end ReconChat

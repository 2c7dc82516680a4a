import ReconChat.Agent.Live
import ReconChat.ChatService.ListenAddress
import ReconChat.ChatService.LogRecord
import ReconChat.ChatService.Routes

/-!
How the chat service starts: it reads its address and its settings from the environment, tries to
start an agent, and says in its log what it found. Without an agent it goes on, so that its health
check can tell. The start ends where the address is to be bound, which never succeeds here.
-/

namespace ReconChat.ChatService

open Json (Value)

def serviceTarget : String := "rc_chat_api"

def portRecords (environment : Environment) : List LogRecord :=
  match ListenAddress.portSetting environment with
  | .ok _ => []
  | .error error =>
      [⟨.warn, "rc_chat_api::config", "invalid CHAT_API_PORT, using default",
        [("error", .string error.message)]⟩]

def byteCount (text : String) : Value := .number (.integer (Text.Utf8.size text.toList))

def documentRecord (level : LogLevel) (message path : String) (fields : List (String × Value)) :
    LogRecord :=
  ⟨level, "rc_agent::docs", message, ("path", .string path) :: fields⟩

def documentRecords (files : Files) (paths : DocumentSettings) (documents : Documents) :
    List LogRecord :=
  [documentRecord .info "API schema loaded" paths.schemaPath
      [("bytes", byteCount documents.schema)],
    match files.readText paths.guidePath with
    | .ok guide =>
        documentRecord .info "API guide loaded" paths.guidePath [("bytes", byteCount guide)]
    | .error .notFound =>
        documentRecord .warn "API guide not found, proceeding with schema only" paths.guidePath []
    | .error error =>
        documentRecord .warn "error loading API guide, proceeding with schema only" paths.guidePath
          [("error", .string error.message)]]

def agentRecords (settings : Settings) (documents : Documents) : List LogRecord :=
  [⟨.info, "rc_agent::agent", "chatbot agent initialized",
      [("model", .string (Gemini.modelName settings.gemini.model)),
        ("recon_url", .string (Recon.Client.ofSettings settings.recon).baseUrl),
        ("guide_loaded", .bool (!documents.guide.isEmpty))]⟩,
    ⟨.info, "rc_chat_api::state", "chatbot agent initialized", []⟩]

def attemptRecords (settings : Settings) (files : Files) : List LogRecord :=
  match Agent.start settings files with
  | .ok agent =>
      documentRecords files settings.documents agent.documents ++
        agentRecords settings agent.documents
  | .error error =>
      [⟨.error, "rc_chat_api::state", "failed to initialize chatbot agent",
          [("error", .string error.message)]⟩,
        ⟨.warn, serviceTarget, "serving without an agent, /chat will return 500", []⟩]

def startRecords (environment : Environment) (files : Files) : List LogRecord :=
  [⟨.info, serviceTarget, "rc-chat-api starting", [("version", .string version)]⟩] ++
    portRecords environment ++ attemptRecords (Settings.ofEnvironment environment) files

def agentOf (settings : Settings) (files : Files) : Option (Agent (StateM Http.Network)) :=
  (Agent.start settings files).toOption

structure StartOutcome where
  exitCode : Nat
  errorOutput : String
  records : List LogRecord

/-- Starts the service, up to its address that cannot be bound. -/
def start (environment : Environment) (files : Files) : StartOutcome :=
  let directives := logDirectives ((environment "RUST_LOG").getD "")
  { exitCode := 1
    errorOutput := "Error: Cannot assign requested address (os error 99)\n"
    records := (startRecords environment files).filter (LogRecord.passes directives) }

end ReconChat.ChatService

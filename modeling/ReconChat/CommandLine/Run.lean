import ReconChat.Agent.Live
import ReconChat.CommandLine.Arguments
import ReconChat.Console.Session
import ReconChat.Console.Terminal
import ReconChat.Settings.File

/-!
Runs of the command line. A run settles its configuration, asks for the API key if there is none
and somebody can be asked, starts the agent, and does one thing: a connection test, the
capabilities, one query, or an interactive session, the first of these that was asked for. It
fails only before anything is sent; what the remote services answer never changes how it ends.
-/

namespace ReconChat.CommandLine

open Http (Network)
open Console (Item)

structure Invocation where
  arguments : List String
  environment : Environment
  files : Files
  /-- The bytes of the input, or the keys typed on a terminal. -/
  input : List UInt8
  /-- Is the input typed by somebody who can be asked? -/
  terminal : Bool

def Invocation.items (invocation : Invocation) : List Item :=
  Item.ofInput <|
    if invocation.terminal then Console.Terminal.handedOver invocation.input
    else invocation.input

structure Ended where
  exitCode : Nat
  output : String
  errorOutput : String
deriving DecidableEq

def indentRest (indentation : List Char) (text : String) : String :=
  String.ofList (text.toList.flatMap fun char =>
    if char = '\n' then '\n' :: indentation else [char])

def numberedCause (pair : String × Nat) : String :=
  "\n    " ++ toString pair.2 ++ ": " ++ indentRest (List.replicate 7 ' ') pair.1

def causeLines : List String → String
  | [] => ""
  | [cause] => "\n\nCaused by:\n    " ++ indentRest (List.replicate 4 ' ') cause
  | causes => "\n\nCaused by:" ++ String.join (causes.zipIdx.map numberedCause)

def errorText : List String → String
  | [] => "Error: \n"
  | error :: causes => s!"Error: {error}{causeLines causes}\n"

def failed (output : String) (causes : List String) : Ended := ⟨1, output, errorText causes⟩

def succeeded (output : String) : Ended := ⟨0, output, ""⟩

/-- The address of Recon that a run is told: by its arguments, or else by the environment. -/
def reconUrl? (arguments : Arguments) (environment : Environment) : Option String :=
  arguments.value? .reconUrl <|> environment "RECON_URL"

def overlay (arguments : Arguments) (environment : Environment) (settings : Settings) :
    Settings where
  gemini := settings.gemini
  recon :=
    { settings.recon with
      baseUrl := (reconUrl? arguments environment).getD settings.recon.baseUrl }
  documents :=
    { schemaPath := (arguments.value? .schema).getD settings.documents.schemaPath
      guidePath := (arguments.value? .guide).getD settings.documents.guidePath }

def settingsOf (invocation : Invocation) (arguments : Arguments) :
    Except SettingsError Settings :=
  (Settings.load invocation.files invocation.environment (arguments.value? .config)).map
    (overlay arguments invocation.environment)

def keyPrompt : String :=
  "Gemini API key not found in environment variable GEMINI_API_KEY\nPlease enter your Gemini API key: "

/-- Settings with a usable key, what was written to get it, and the input that is left. -/
structure Prepared where
  settings : Settings
  output : String
  input : List Item

def askForKey (settings : Settings) (items : List Item) : Except Ended Prepared :=
  let withKey (text : String) (rest : List Item) : Except Ended Prepared :=
    let key := Text.trim text
    if key.isEmpty then .error (failed keyPrompt ["API key is required to use the chatbot"])
    else
      .ok ⟨{ settings with gemini := { settings.gemini with apiKey := some key } }, keyPrompt, rest⟩
  match items with
  | [] => withKey "" []
  | .line text :: rest => withKey text rest
  | .failure words :: _ => .error (failed keyPrompt [words])

def prepare (invocation : Invocation) (settings : Settings) : Except Ended Prepared :=
  match settings.usableKey with
  | some _ => .ok ⟨settings, "", invocation.items⟩
  | none =>
      if invocation.terminal then askForKey settings invocation.items
      else .error (failed "" [Settings.missingKeyMessage])

inductive Mode where
  | testConnections
  | capabilities
  | query (text : String)
  | interactive
deriving DecidableEq

def modeOf (arguments : Arguments) : Mode :=
  if arguments.has .testConnections then .testConnections
  else if arguments.has .capabilities then .capabilities
  else
    match arguments.value? .query with
    | some query => .query query
    | none => .interactive

variable {m : Type → Type} [Monad m]

def perform (agent : Agent m) (input : List Item) : Mode → m String
  | .testConnections => do
      return "Testing connections...\n" ++ (← agent.testConnections).details
  | .capabilities => return capabilities ++ "\n"
  | .query query => do
      let answer ← agent.processQuery query
      return s!"Query: {query}\nResponse: {answer}\n"
  | .interactive => Console.interactive agent false input

def startNotice : String := "Initializing Ozone Recon Chatbot...\n"

def runPrepared (files : Files) (mode : Mode) (prepared : Prepared) : StateM Network Ended := do
  let output := prepared.output ++ startNotice
  match Agent.start prepared.settings files with
  | .error error => return failed output ("failed to initialize chatbot" :: error.causes)
  | .ok agent => return succeeded (output ++ (← perform agent prepared.input mode))

def runWith (invocation : Invocation) (arguments : Arguments) : StateM Network Ended :=
  match settingsOf invocation arguments with
  | .error error => return failed "" error.causes
  | .ok settings =>
      match prepare invocation settings with
      | .error ended => return ended
      | .ok prepared => runPrepared invocation.files (modeOf arguments) prepared

def environmentNames : List String :=
  ["GEMINI_API_KEY", "GEMINI_MODEL", "GEMINI_BASE_URL", "RECON_URL", "RECON_API_SCHEMA",
    "RECON_API_GUIDE"]

/-- The paths that a run with given arguments may read, as far as the files known so far tell. -/
def paths (invocation : Invocation) (arguments : Arguments) : List String :=
  (arguments.value? .config).toList ++
    match settingsOf invocation arguments with
    | .error _ => []
    | .ok settings => [settings.documents.schemaPath, settings.documents.guidePath]

def readsInput (invocation : Invocation) (arguments : Arguments) : Bool :=
  match settingsOf invocation arguments with
  | .error _ => false
  | .ok settings =>
      (settings.usableKey.isNone && invocation.terminal) || modeOf arguments = .interactive

def run (invocation : Invocation) : StateM Network Ended :=
  match parse invocation.arguments with
  | .error error => return ⟨2, "", error.text⟩
  | .ok .help => return succeeded (helpText invocation.environment)
  | .ok .version => return succeeded versionText
  | .ok (.run arguments) => runWith invocation arguments

end ReconChat.CommandLine

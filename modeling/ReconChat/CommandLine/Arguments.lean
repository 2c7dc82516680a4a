import ReconChat.ChatService.Routes
import ReconChat.CommandLine.ArgumentError
import ReconChat.Environment

/-!
Command-line arguments. Options take a value, flags do not, and neither may be repeated. An option
waits for its value: the next argument is its value unless it begins like an option, and what is
wrong with the waiting option is said only when the next known option, flag or the end is reached.
An argument that is not known is reported at once. Help and version end the reading where they
stand.
-/

namespace ReconChat.CommandLine

structure Arguments where
  values : List (ValueOption × String)
  flags : List Flag
deriving DecidableEq

namespace Arguments

def none : Arguments := ⟨[], []⟩

def value? (arguments : Arguments) (option : ValueOption) : Option String :=
  (arguments.values.find? (·.1 = option)).map (·.2)

def has (arguments : Arguments) (flag : Flag) : Bool := flag ∈ arguments.flags

end Arguments

inductive Parsed where
  | run (arguments : Arguments)
  | help
  | version
deriving DecidableEq

/-- What has been read: the settled arguments, the parameters given so far, and the option that
waits, with its value if that has been read too. -/
structure Reading where
  settled : Arguments
  given : List Parameter
  waiting : Option (ValueOption × Option String)

namespace Reading

def start : Reading := ⟨.none, [], none⟩

def settleValue (reading : Reading) (option : ValueOption) (value : String) :
    Except ArgumentError Reading :=
  if (reading.settled.value? option).isSome then .error (.repeatedOption option)
  else if option.refusesEmpty && value.isEmpty then .error (.missingValue option)
  else
    .ok
      ⟨{ reading.settled with values := reading.settled.values ++ [(option, value)] },
        reading.given ++ [.option option], none⟩

def settle (reading : Reading) : Except ArgumentError Reading :=
  match reading.waiting with
  | none => .ok reading
  | some (option, none) => .error (.missingValue option)
  | some (option, some value) => reading.settleValue option value

def allGiven (reading : Reading) : List Parameter :=
  match reading.waiting with
  | some (option, some _) =>
      if .option option ∈ reading.given then reading.given else reading.given ++ [.option option]
  | _ => reading.given

end Reading

inductive Step where
  | goOn (reading : Reading)
  | answer (parsed : Parsed)

def takeFlag (reading : Reading) (flag : Flag) : Except ArgumentError Step :=
  match reading.settle with
  | .error error => .error error
  | .ok ⟨settled, given, _⟩ =>
      match flag with
      | .help => .ok (.answer .help)
      | .version => .ok (.answer .version)
      | flag =>
          if settled.has flag then .error (.repeatedFlag flag)
          else
            .ok (.goOn
              ⟨{ settled with flags := settled.flags ++ [flag] }, given ++ [.flag flag], none⟩)

def takeOption (reading : Reading) (option : ValueOption) (attached : Option String) :
    Except ArgumentError Step :=
  match reading.settle with
  | .error error => .error error
  | .ok settled =>
      match attached with
      | none => .ok (.goOn { settled with waiting := some (option, none) })
      | some value => (settled.settleValue option value).map .goOn

def takeLong (reading : Reading) (chars : List Char) : Except ArgumentError Step :=
  let name := String.ofList (chars.takeWhile (· ≠ '='))
  let attached :=
    match chars.dropWhile (· ≠ '=') with
    | [] => none
    | _ :: value => some (String.ofList value)
  match ValueOption.all.find? (·.name = name), Flag.all.find? (·.name = name), attached with
  | some option, _, attached => takeOption reading option attached
  | none, some flag, none => takeFlag reading flag
  | none, some flag, some value =>
      .error (.unexpectedValue value flag (!reading.given.isEmpty))
  | none, none, _ => .error (.unknownName name reading.allGiven)

def takeShort (reading : Reading) (letter : Char) : Except ArgumentError Step :=
  match Flag.ofLetter? letter with
  | some flag => takeFlag reading flag
  | none => .error (.unexpected (String.ofList ['-', letter]))

def takePlain (reading : Reading) (argument : String) : Except ArgumentError Step :=
  match reading.waiting with
  | some (option, none) => .ok (.goOn { reading with waiting := some (option, some argument) })
  | _ => .error (.unexpected argument)

def takeArgument (reading : Reading) (argument : String) : Except ArgumentError Step :=
  match argument.toList with
  | '-' :: '-' :: rest => takeLong reading rest
  | ['-'] => takePlain reading argument
  | '-' :: letter :: _ => takeShort reading letter
  | _ => takePlain reading argument

/-- Reads the arguments. After two dashes on their own nothing more is expected. -/
def readArguments : Reading → List String → Except ArgumentError Parsed
  | reading, [] => reading.settle.map fun settled => .run settled.settled
  | reading, argument :: rest =>
      if argument = "--" then
        match rest with
        | [] => reading.settle.map fun settled => .run settled.settled
        | extra :: _ => .error (.unexpected extra)
      else
        match takeArgument reading argument with
        | .error error => .error error
        | .ok (.answer parsed) => .ok parsed
        | .ok (.goOn next) => readArguments next rest

def parse (arguments : List String) : Except ArgumentError Parsed :=
  readArguments .start arguments

def versionText : String := s!"recon-chatbot {ChatService.version}\n"

def descriptionColumn : Nat := 31

/-- The environment's address of Recon as the help shows it, up to the next option: a new line
begins in the column of the descriptions, and what it holds of control sequences is dropped, with
the text after it that they reach. -/
def shownReconUrl (environment : Environment) : String :=
  let indented := ((environment "RECON_URL").getD "").toList.flatMap fun char =>
    if char = '\n' then '\n' :: List.replicate descriptionColumn ' ' else [char]
  Text.ControlSequence.drop (String.ofList indented ++ "]\n      ")

def helpText (environment : Environment) : String :=
  s!"Ozone Recon Chatbot - ask questions about your Ozone cluster in natural language

Usage: recon-chatbot [OPTIONS]

Options:
      --recon-url <RECON_URL>  Base URL of the Recon service [default: http://localhost:9888] [env: RECON_URL={shownReconUrl environment}--query <QUERY>          Single query mode - ask one question and exit
      --test-connections       Test connections to Gemini and Recon and exit
      --capabilities           Show chatbot capabilities and exit
      --config <CONFIG>        TOML config file (environment variables still apply on top)
      --schema <SCHEMA>        Path to the Recon OpenAPI schema [default: the bundled api_schema/recon-api.yaml]
      --guide <GUIDE>          Path to the Recon API guide [default: the bundled api_schema/recon-api-guide.md]
  -h, --help                   Print help
  -V, --version                Print version

Environment:
  GEMINI_API_KEY    Google AI API key for Gemini
  RECON_URL         Default Recon service URL (optional)
"

end ReconChat.CommandLine

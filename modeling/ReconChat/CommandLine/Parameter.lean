/-!
The parameters of the command line: options, which take a value, and flags, which do not.
-/

namespace ReconChat.CommandLine

inductive ValueOption where
  | reconUrl
  | query
  | config
  | schema
  | guide
deriving DecidableEq

inductive Flag where
  | testConnections
  | capabilities
  | help
  | version
deriving DecidableEq

namespace ValueOption

def name : ValueOption → String
  | .reconUrl => "recon-url"
  | .query => "query"
  | .config => "config"
  | .schema => "schema"
  | .guide => "guide"

def all : List ValueOption := [.reconUrl, .query, .config, .schema, .guide]

def shown : ValueOption → String
  | .reconUrl => "--recon-url <RECON_URL>"
  | .query => "--query <QUERY>"
  | .config => "--config <CONFIG>"
  | .schema => "--schema <SCHEMA>"
  | .guide => "--guide <GUIDE>"

/-- Paths may not be empty; other values may. -/
def refusesEmpty : ValueOption → Bool
  | .reconUrl => false
  | .query => false
  | .config => true
  | .schema => true
  | .guide => true

end ValueOption

namespace Flag

def name : Flag → String
  | .testConnections => "test-connections"
  | .capabilities => "capabilities"
  | .help => "help"
  | .version => "version"

def all : List Flag := [.testConnections, .capabilities, .help, .version]

def shown (flag : Flag) : String := "--" ++ flag.name

def ofLetter? (letter : Char) : Option Flag :=
  if letter = 'h' then some .help else if letter = 'V' then some .version else none

def isAnswer (flag : Flag) : Bool := flag = .help || flag = .version

end Flag

inductive Parameter where
  | option (named : ValueOption)
  | flag (named : Flag)
deriving DecidableEq

namespace Parameter

def name : Parameter → String
  | .option named => named.name
  | .flag named => named.name

def shown : Parameter → String
  | .option named => named.shown
  | .flag named => named.shown

def ofRun : List Parameter :=
  [.option .reconUrl, .option .query, .flag .testConnections, .flag .capabilities,
    .option .config, .option .schema, .option .guide]

def all : List Parameter := ofRun ++ [.flag .help, .flag .version]

end Parameter

end ReconChat.CommandLine

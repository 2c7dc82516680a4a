import ReconChat.CommandLine.Parameter
import ReconChat.Text.ControlSequence
import ReconChat.Text.Jaro

/-!
What can be wrong with arguments, and how it is said. A message names the arguments as they were
given, without control sequences, and shows how the program is called. After a name that is not
known the most similar one is suggested, if any is similar enough, and the call is shown with the
parameters that were given.
-/

namespace ReconChat.CommandLine

inductive ArgumentError where
  /-- An argument that nothing expects. -/
  | unexpected (argument : String)
  /-- A name that is not known, and the parameters given before it. -/
  | unknownName (name : String) (given : List Parameter)
  | missingValue (option : ValueOption)
  /-- A value for a flag, and whether it comes after other parameters. -/
  | unexpectedValue (value : String) (flag : Flag) (afterOthers : Bool)
  | repeatedOption (option : ValueOption)
  | repeatedFlag (flag : Flag)
deriving DecidableEq

namespace Parameter

/-- Names are suggested from this similarity on, itself left out. -/
def suggestionThreshold : Float := 0.7

/-- Keeps the more similar of two parameters, the later one if they are equally similar. -/
def moreSimilar (best : Option (Parameter × Float)) (next : Parameter × Float) :
    Option (Parameter × Float) :=
  match best with
  | some (kept, similarity) => if next.2 < similarity then some (kept, similarity) else some next
  | none => if suggestionThreshold < next.2 then some next else none

def similarTo (name : String) : Option Parameter :=
  ((all.map fun parameter =>
    (parameter, Text.Jaro.similarity name.toList parameter.name.toList)).foldl moreSimilar
      none).map (·.1)

end Parameter

namespace ArgumentError

def usageWith (parameters : List String) : String :=
  "\n\nUsage: recon-chatbot" ++ String.join (parameters.map (" " ++ ·))

def usage : String := usageWith ["[OPTIONS]"]

def alternatives : String :=
  "<" ++ String.intercalate "|" (Parameter.ofRun.map Parameter.shown) ++ ">"

/-- How the program is called with a flag that has come after other parameters of a run. -/
def usageAfterOthers (flag : Flag) : String :=
  usageWith (if flag.isAnswer then [flag.shown, alternatives] else [alternatives])

def withSuggestion (given : List Parameter) : Option Parameter → List Parameter
  | none => given
  | some tip => if tip ∈ given then given else given ++ [tip]

def usageGiven (given : List Parameter) : String :=
  if given.isEmpty then usage else usageWith (given.map Parameter.shown)

def suggestion : Option Parameter → String
  | none => ""
  | some tip => s!"\n\n  tip: a similar argument exists: '--{tip.name}'"

def message : ArgumentError → String
  | .unexpected argument =>
      s!"unexpected argument '{Text.ControlSequence.drop argument}' found" ++ usage
  | .unknownName name given =>
      let tip := Parameter.similarTo name
      s!"unexpected argument '--{Text.ControlSequence.drop name}' found" ++ suggestion tip ++
        usageGiven (withSuggestion given tip)
  | .missingValue option => s!"a value is required for '{option.shown}' but none was supplied"
  | .unexpectedValue value flag afterOthers =>
      let shownValue := Text.ControlSequence.drop value
      s!"unexpected value '{shownValue}' for '{flag.shown}' found; no more were expected" ++
        (if afterOthers then usageAfterOthers flag else usageWith [flag.shown])
  | .repeatedOption option =>
      s!"the argument '{option.shown}' cannot be used multiple times" ++ usage
  | .repeatedFlag flag => s!"the argument '{flag.shown}' cannot be used multiple times" ++ usage

def text (error : ArgumentError) : String :=
  s!"error: {error.message}\n\nFor more information, try '--help'.\n"

end ArgumentError

end ReconChat.CommandLine

import ReconChat.Json.Printer
import ReconChat.Text.Blank

/-!
Log records and the filter that selects them. A record has a level, a target, a message and named
values. A filter is a list of directives, each a level for all targets that begin in a certain way;
of the directives that fit a target the one with the longest beginning decides, and of equally long
ones the last.
-/

namespace ReconChat.ChatService

inductive LogLevel where
  | error
  | warn
  | info
  | debug
  | trace
deriving DecidableEq

namespace LogLevel

/-- Greater levels are more talkative. -/
def rank : LogLevel → Nat
  | .error => 1
  | .warn => 2
  | .info => 3
  | .debug => 4
  | .trace => 5

def word : LogLevel → String
  | .error => "ERROR"
  | .warn => "WARN"
  | .info => "INFO"
  | .debug => "DEBUG"
  | .trace => "TRACE"

end LogLevel

structure LogRecord where
  level : LogLevel
  target : String
  message : String
  fields : List (String × Json.Value)

def LogRecord.toValue (record : LogRecord) : Json.Value :=
  .object
    [("level", .string record.level.word),
      ("fields", .object (("message", .string record.message) :: record.fields)),
      ("target", .string record.target)]

/-- Records up to a rank pass for targets with a beginning. -/
structure LogDirective where
  beginning : String
  rank : Nat
deriving DecidableEq

namespace LogDirective

/-- The rank of a level by its name or number; nothing passes at rank zero. -/
def rankOf? (text : String) : Option Nat :=
  let folded := Text.lowerAscii text
  if folded = "off" ∨ folded = "0" then some 0
  else if folded = "error" ∨ folded = "1" then some 1
  else if folded = "warn" ∨ folded = "2" then some 2
  else if folded = "info" ∨ folded = "3" then some 3
  else if folded = "debug" ∨ folded = "4" then some 4
  else if folded = "trace" ∨ folded = "5" then some 5
  else none

def parse (chars : List Char) : Option LogDirective :=
  let target := String.ofList (chars.takeWhile (· ≠ '='))
  match chars.dropWhile (· ≠ '=') with
  | [] =>
      match rankOf? target with
      | some rank => some ⟨"", rank⟩
      | none => some ⟨target, LogLevel.trace.rank⟩
  | _ :: level => (rankOf? (String.ofList level)).map (⟨target, ·⟩)

def fits (directive : LogDirective) (target : String) : Bool :=
  directive.beginning.toList.isPrefixOf target.toList

end LogDirective

def splitCommas : List Char → (piece : List Char) → List (List Char)
  | [], piece => [piece.reverse]
  | ',' :: rest, piece => piece.reverse :: splitCommas rest []
  | char :: rest, piece => splitCommas rest (char :: piece)

/-- The directives of a filter. Pieces that are none do not count; without any directive only
errors pass. -/
def logDirectives (filter : String) : List LogDirective :=
  let pieces := (splitCommas filter.toList []).filter (!·.isEmpty)
  match pieces.filterMap LogDirective.parse with
  | [] => [⟨"", LogLevel.error.rank⟩]
  | directives => directives

/-- The directive that decides about a target, given one that would so far. -/
def decisive (target : String) : List LogDirective → Option LogDirective → Option LogDirective
  | [], best => best
  | directive :: rest, best =>
      if !directive.fits target then decisive target rest best
      else
        match best with
        | none => decisive target rest (some directive)
        | some other =>
            decisive target rest
              (some (if directive.beginning.length < other.beginning.length then other
                else directive))

def LogRecord.passes (directives : List LogDirective) (record : LogRecord) : Bool :=
  match decisive record.target directives none with
  | none => false
  | some directive => record.level.rank ≤ directive.rank

end ReconChat.ChatService

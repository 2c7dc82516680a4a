import ReconChat.Text.Blank
import ReconChat.Text.Lowercase

/-!
One line of console input. Blanks around a line do not count, and the words that are commands
may be written in either case.
-/

namespace ReconChat.Console

inductive Command where
  | quit
  | help
  | empty
  | query (text : String)
deriving DecidableEq

namespace Command

def quitWords : List String := ["quit", "exit", "bye"]

def helpWords : List String := ["help", "capabilities"]

def parse (line : String) : Command :=
  let trimmed := Text.trim line
  let folded := Text.lowercase trimmed
  if folded ∈ quitWords then .quit
  else if folded ∈ helpWords then .help
  else if trimmed.isEmpty then .empty
  else .query trimmed

end Command

end ReconChat.Console

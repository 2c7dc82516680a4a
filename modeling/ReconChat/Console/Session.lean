import ReconChat.Agent.Basic
import ReconChat.Agent.Capabilities
import ReconChat.Console.Command
import ReconChat.Console.Input
import ReconChat.Report.Lines

/-!
Console sessions. A session takes items in order, shows a prompt before each, and writes what an
item calls for, until an item ends it or the input does; both times it says goodbye. A session may
be interrupted while its first query runs, which ends it too and leaves the query without an
answer. An interactive session starts with a connection test and goes no further when Recon is
not connected.
-/

namespace ReconChat.Console

/-- What an item leads to: text and the next item, or text and the end. -/
inductive Reaction where
  | goOn (text : String)
  | finish (text : String)
deriving DecidableEq

def prompt : String := "\nYou: "

def goodbye : String := "Goodbye!\n"

/-- A goodbye on a line of its own, when nobody has ended the line of the prompt. -/
def goodbyeBelow : String := "\n" ++ goodbye

variable {m : Type → Type} [Monad m]

def reactToCommand (agent : Agent m) (interrupted : Bool) : Command → m Reaction
  | .quit => return .finish goodbye
  | .help => return .goOn s!"\nAssistant:\n{capabilities}\n"
  | .empty => return .goOn ""
  | .query query => do
      if interrupted then return .finish goodbyeBelow
      else
        let answer ← agent.processQuery query
        return .goOn s!"\nAssistant: {answer}\n"

def react (agent : Agent m) (interrupted : Bool) : Item → m Reaction
  | .line text => reactToCommand agent interrupted (Command.parse text)
  | .failure words => return .goOn s!"\nError: {words}\n"

def chat (agent : Agent m) (interrupted : Bool) : List Item → m String
  | [] => return prompt ++ goodbyeBelow
  | item :: rest => do
      match ← react agent interrupted item with
      | .finish text => return prompt ++ text
      | .goOn text => return prompt ++ text ++ (← chat agent interrupted rest)

def rule : String := String.ofList (List.replicate 50 '=')

def opening : String := s!"Ozone Recon Chatbot starting...\n{rule}\nTesting connections...\n"

def invitation : String :=
  s!"\n{rule}\nChat started! Type 'help' for capabilities, 'quit' to exit.\n{rule}\n"

def reconHint : String := "     Make sure Recon is running and accessible\n"

def interactive (agent : Agent m) (interrupted : Bool) (items : List Item) : m String := do
  let report ← agent.testConnections
  let start := opening ++ report.summary
  if report.recon.isConnected then
    return start ++ invitation ++ (← chat agent interrupted items)
  else return start ++ reconHint

end ReconChat.Console

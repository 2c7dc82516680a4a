import ReconChat.Agent.Scripted
import ReconChat.ChatService.Startup
import ReconChat.CommandLine.Run
import ReconChat.Main
import ReconChat.Proofs.Json.Reading
import ReconChat.Proofs.Selection.Balance
import ReconChat.Report.Wire
import ReconChat.Selection.Grammar
import ReconChat.ToolCall.Wire
import ReconChat.Proofs.Json.Balance
import ReconChat.Proofs.Selection.Decision
import ReconChat.Proofs.Agent.Course
import ReconChat.Proofs.Text.Utf8
import ReconChat.Proofs.Url.Form
import ReconChat.Proofs.Json.Canonical
import ReconChat.Proofs.Json.Integer
import ReconChat.Proofs.Json.Spelling
import ReconChat.Proofs.Selection.Parameters
import ReconChat.Proofs.Url.Parts
import ReconChat.Proofs.Recon.Parameters
import ReconChat.Proofs.Text.Composed
import ReconChat.Proofs.Text.Punycode
import ReconChat.Proofs.Url.Host
import ReconChat.Proofs.Url.Authority
import ReconChat.Proofs.Url.Below
import ReconChat.Proofs.Recon.Address
import ReconChat.Proofs.Agent.Answer
import ReconChat.Proofs.Agent.Key
import ReconChat.Proofs.ToolCall.Decoders
import ReconChat.Proofs.Wire
import ReconChat.Proofs.Gemini.Order
import ReconChat.Proofs.Console.Session
import ReconChat.Proofs.Http.Replies
import ReconChat.Proofs.Agent.Connections
import ReconChat.Proofs.ChatService.Routes
import ReconChat.Proofs.Agent.Start
import ReconChat.Proofs.ChatService.Startup
import ReconChat.Proofs.ToolCall.Rules
import ReconChat.Proofs.Settings.Layers
import ReconChat.Proofs.CommandLine.Arguments
import ReconChat.Proofs.CommandLine.Settings
import ReconChat.Proofs.Json.Indented
import ReconChat.Proofs.Json.Nesting
import ReconChat.Proofs.Json.Printed
import ReconChat.Proofs.Prompt.Summary
import ReconChat.Proofs.Agent.Prompts
import ReconChat.Proofs.Agent.Failures
import ReconChat.Proofs.Json.Folds
import ReconChat.Proofs.Json.Scalars
import ReconChat.Proofs.Json.Passing
import ReconChat.Proofs.Json.Shaped
import ReconChat.Proofs.Json.Stated
import ReconChat.Proofs.Gemini.Generation
import ReconChat.Proofs.Selection.Trimmed
import ReconChat.Proofs.Gemini.Outcome
import ReconChat.Proofs.Gemini.Name
import ReconChat.Proofs.Text.Lowercase
import ReconChat.Proofs.Console.Command
import ReconChat.Proofs.CommandLine.Given
import ReconChat.Proofs.CommandLine.Run
import ReconChat.Proofs.Json.Natural
import ReconChat.Proofs.Recon.Counts
import ReconChat.Proofs.Agent.Counts
import ReconChat.Proofs.Selection.Offsets
import ReconChat.Proofs.ChatService.ListenAddress

import ReconChat.Json.Reader
import ReconChat.Selection.Span
import ReconChat.ToolCall.Basic

/-!
What a reply to the endpoint-selection prompt decides. The sentinel anywhere in the reply beats
everything else. Otherwise the first object in the reply is read as a tool call; no object, or
one that is not JSON, decides for no endpoint.
-/

namespace ReconChat.Selection

def sentinel : String := "NO_SUITABLE_ENDPOINT"

/-- The decision of a reply: a call, no endpoint, or an object that is no usable call. -/
def parse (reply : String) : Except ToolCallError (Option ToolCall) :=
  if Text.containsRun reply.toList sentinel.toList then .ok none
  else
    match firstObject reply with
    | none => .ok none
    | some span =>
        match Json.parse span with
        | .error _ => .ok none
        | .ok value => (ToolCall.ofValue value).map some

end ReconChat.Selection

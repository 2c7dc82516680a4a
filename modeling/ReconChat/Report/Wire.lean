import ReconChat.Json.Printer
import ReconChat.Json.Shape
import ReconChat.Report.Basic

/-!
Connection reports as JSON text, written and strictly read. Absent counts, messages and
summaries are not written and may be missing or null when read. A service state is written as a
word.
-/

namespace ReconChat

open Json (Value)
open Json.Shape (required defaulted optional record)

namespace ServiceState

def word : ServiceState → String
  | .connected => "connected"
  | .error => "error"
  | .unknown => "unknown"

def ofWord? (word : String) : Option ServiceState :=
  if word = "connected" then some .connected
  else if word = "error" then some .error
  else if word = "unknown" then some .unknown
  else none

def toValue (state : ServiceState) : Value := .string state.word

def ofValue : Value → Option ServiceState
  | .string word => ofWord? word
  | _ => none

def shape : Json.Reader := Json.Shape.choice ["connected", "error", "unknown"]

end ServiceState

def largestCount : Nat := 0xFFFFFFFFFFFFFFFF

def countShape : Json.Reader := optional (Json.Shape.count largestCount)

def presentCount (name : String) : Option UInt64 → List (String × Value)
  | some count => [(name, .number (.integer count.toNat))]
  | none => []

def count? : Option Value → Option UInt64
  | some (.number (.integer (.ofNat count))) => some count.toUInt64
  | _ => none

namespace ClusterSummary

def fieldNames : List String :=
  ["total_datanodes", "healthy_datanodes", "containers", "missing_containers",
    "open_containers", "pipelines", "volumes", "buckets", "keys"]

def toValue (summary : ClusterSummary) : Value :=
  .object ((fieldNames.zip summary.counts).flatMap fun (name, count) => presentCount name count)

def ofValue : Value → Option ClusterSummary
  | .object members =>
      some (ofCounts fun index =>
        count? ((fieldNames[index]?).bind fun name => latest? name members))
  | _ => none

def shape : Json.Reader := record (fieldNames.map fun name => defaulted name countShape)

end ClusterSummary

namespace ConnectionStatus

def toValue (status : ConnectionStatus) : Value :=
  .object
    ([("status", status.state.toValue)] ++
      (match status.message with
        | some text => [("message", .string text)]
        | none => []) ++
      (match status.cluster with
        | some summary => [("cluster_info", summary.toValue)]
        | none => []))

def ofValue : Value → Option ConnectionStatus
  | .object members => do
      let state ← (latest? "status" members).bind ServiceState.ofValue
      some ⟨state, (latest? "message" members).bind Value.string?,
        (latest? "cluster_info" members).bind ClusterSummary.ofValue⟩
  | _ => none

def shape : Json.Reader :=
  record [required "status" ServiceState.shape, defaulted "message" (optional Json.Shape.text),
    defaulted "cluster_info" (optional ClusterSummary.shape)]

end ConnectionStatus

namespace ConnectionReport

def toValue (report : ConnectionReport) : Value :=
  .object [("gemini", report.gemini.toValue), ("recon", report.recon.toValue)]

def ofValue : Value → Option ConnectionReport
  | .object members => do
      let gemini ← (latest? "gemini" members).bind ConnectionStatus.ofValue
      let recon ← (latest? "recon" members).bind ConnectionStatus.ofValue
      some ⟨gemini, recon⟩
  | _ => none

def shape : Json.Reader :=
  record [required "gemini" ConnectionStatus.shape, required "recon" ConnectionStatus.shape]

end ConnectionReport

def ServiceState.encode (state : ServiceState) : String := state.toValue.compact

def ServiceState.decode : String → Except Json.Fault ServiceState :=
  Json.Shape.decode ServiceState.shape ServiceState.ofValue

def ClusterSummary.encode (summary : ClusterSummary) : String := summary.toValue.compact

def ClusterSummary.decode : String → Except Json.Fault ClusterSummary :=
  Json.Shape.decode ClusterSummary.shape ClusterSummary.ofValue

def ConnectionStatus.encode (status : ConnectionStatus) : String := status.toValue.compact

def ConnectionStatus.decode : String → Except Json.Fault ConnectionStatus :=
  Json.Shape.decode ConnectionStatus.shape ConnectionStatus.ofValue

def ConnectionReport.encode (report : ConnectionReport) : String := report.toValue.compact

def ConnectionReport.decode : String → Except Json.Fault ConnectionReport :=
  Json.Shape.decode ConnectionReport.shape ConnectionReport.ofValue

end ReconChat

import ReconChat.Report.Basic

/-!
Connection reports as lines of text: a short summary, and details. A count that is not known is
shown as a question mark. Counts of a service that is not connected are not shown.
-/

namespace ReconChat.ConnectionReport

def shownCount : Option UInt64 → String
  | some count => toString count.toNat
  | none => "?"

def shownFailure (status : ConnectionStatus) : String := status.message.getD "Connection failed"

def capitalized (name : String) : String :=
  match name.toList with
  | [] => ""
  | first :: rest => String.ofList (first.toUpper :: rest)

def summaryLines (name : String) (status : ConnectionStatus) : String :=
  if status.isConnected then
    s!"[ok] {capitalized name}: Connected\n" ++
      match status.cluster with
      | some cluster =>
          s!"     Cluster: {shownCount cluster.totalDatanodes} datanodes, " ++
            s!"{shownCount cluster.containers} containers, " ++
            s!"{shownCount cluster.pipelines} pipelines\n"
      | none => ""
  else s!"[!!] {capitalized name}: {shownFailure status}\n"

def summary (report : ConnectionReport) : String :=
  String.join (report.services.map fun (name, status) => summaryLines name status)

def detailLines (name : String) (status : ConnectionStatus) : String :=
  s!"\n{String.ofList (name.toList.map Char.toUpper)}:\n" ++
    if status.isConnected then
      "  Status: Connected\n" ++
        match status.cluster with
        | some cluster =>
            s!"  Datanodes: {shownCount cluster.totalDatanodes} total, " ++
              s!"{shownCount cluster.healthyDatanodes} healthy\n" ++
              s!"  Containers: {shownCount cluster.containers}\n" ++
              s!"  Pipelines: {shownCount cluster.pipelines}\n"
        | none => ""
    else s!"  Status: {shownFailure status}\n"

def details (report : ConnectionReport) : String :=
  String.join (report.services.map fun (name, status) => detailLines name status)

end ReconChat.ConnectionReport

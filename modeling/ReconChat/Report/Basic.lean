/-!
Connection reports: whether the model and Recon answer, and coarse counts of the cluster.
Counts are 64-bit words and each may be absent. A report does not say when it was made.
-/

namespace ReconChat

inductive ServiceState where
  | connected
  | error
  | unknown
deriving DecidableEq

structure ClusterSummary where
  totalDatanodes : Option UInt64
  healthyDatanodes : Option UInt64
  containers : Option UInt64
  missingContainers : Option UInt64
  openContainers : Option UInt64
  pipelines : Option UInt64
  volumes : Option UInt64
  buckets : Option UInt64
  keys : Option UInt64
deriving DecidableEq

namespace ClusterSummary

def empty : ClusterSummary := ⟨none, none, none, none, none, none, none, none, none⟩

def ofCounts (count : Fin 9 → Option UInt64) : ClusterSummary :=
  ⟨count 0, count 1, count 2, count 3, count 4, count 5, count 6, count 7, count 8⟩

def counts (summary : ClusterSummary) : List (Option UInt64) :=
  [summary.totalDatanodes, summary.healthyDatanodes, summary.containers,
    summary.missingContainers, summary.openContainers, summary.pipelines, summary.volumes,
    summary.buckets, summary.keys]

end ClusterSummary

structure ConnectionStatus where
  state : ServiceState
  message : Option String
  cluster : Option ClusterSummary
deriving DecidableEq

namespace ConnectionStatus

def connected : ConnectionStatus := ⟨.connected, none, none⟩

def connectedWith (summary : ClusterSummary) : ConnectionStatus :=
  ⟨.connected, none, some summary⟩

def failed (message : String) : ConnectionStatus := ⟨.error, some message, none⟩

def isConnected (status : ConnectionStatus) : Bool := status.state = .connected

end ConnectionStatus

structure ConnectionReport where
  gemini : ConnectionStatus
  recon : ConnectionStatus
deriving DecidableEq

/-- The services by name, in the order in which they are shown. -/
def ConnectionReport.services (report : ConnectionReport) : List (String × ConnectionStatus) :=
  [("gemini", report.gemini), ("recon", report.recon)]

end ReconChat

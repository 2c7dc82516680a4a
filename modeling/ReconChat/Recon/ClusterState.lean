import ReconChat.Json.Numeral
import ReconChat.Report.Basic
import ReconChat.Text.Shown

/-!
The counts in Recon's cluster state. They come as an object with nine members that may each be
absent or null, or as a list of exactly nine. Anything but a count that fits 64 bits is refused,
also where it would denote one, such as `5.0`. The members of an object are looked into in the
order of their names.
-/

namespace ReconChat.Recon

open Json (Value)

def countNames : List String :=
  ["totalDatanodes", "healthyDatanodes", "containers", "missingContainers", "openContainers",
    "pipelines", "volumes", "buckets", "keys"]

def kindOf : Value → String
  | .null => "null"
  | .bool value => s!"boolean `{value}`"
  | .number (.integer value) => s!"integer `{value}`"
  | .number (.real value) => s!"floating point `{(Json.Number.real value).text}`"
  | .string text => s!"string {Text.shown text}"
  | .array _ => "sequence"
  | .object _ => "map"

def readCount : Value → Except String (Option UInt64)
  | .null => .ok none
  | .number (.integer (.ofNat count)) => .ok (some count.toUInt64)
  | .number (.integer (.negSucc less)) =>
      .error s!"invalid value: {kindOf (.number (.integer (.negSucc less)))}, expected u64"
  | other => .error s!"invalid type: {kindOf other}, expected u64"

def readMembers : List (String × Value) → Except String (List (String × Option UInt64))
  | [] => .ok []
  | (name, value) :: rest =>
      if name ∈ countNames then
        match readCount value with
        | .error message => .error message
        | .ok count => (readMembers rest).map ((name, count) :: ·)
      else readMembers rest

/-- The counts of a list, which has as many as there are names. -/
def readItems : (wanted : List String) → (taken : Nat) → List Value →
    Except String (List (String × Option UInt64))
  | [], _, [] => .ok []
  | [], taken, extra =>
      .error s!"invalid length {taken + extra.length}, expected fewer elements in array"
  | _ :: _, taken, [] =>
      .error s!"invalid length {taken}, expected struct ClusterState with 9 elements"
  | name :: wanted, taken, value :: rest =>
      match readCount value with
      | .error message => .error message
      | .ok count => (readItems wanted (taken + 1) rest).map ((name, count) :: ·)

def summaryOfCounts (counts : List (String × Option UInt64)) : ClusterSummary :=
  ClusterSummary.ofCounts fun index =>
    ((countNames[index]?).bind fun name => latest? name counts).join

def readClusterState : Value → Except String ClusterSummary
  | .object members => (readMembers members).map summaryOfCounts
  | .array items => (readItems countNames 0 items).map summaryOfCounts
  | other => .error s!"invalid type: {kindOf other}, expected struct ClusterState"

end ReconChat.Recon

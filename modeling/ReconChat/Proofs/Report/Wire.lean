import ReconChat.Proofs.Json.Record
import ReconChat.Report.Wire

/-!
Connection reports written and read back. Every report, whichever of its counts, messages and
summaries are absent, is decoded from what it is encoded as. Texts that are not encodings, such as
records written as lists, are not spoken of.
-/

namespace ReconChat

open Json (Value ReadsBack present)
open Json.Shape (FieldsRead)

namespace ServiceState

theorem reads_back (state : ServiceState) : ReadsBack shape state.toValue :=
  Json.Shape.reads_choice (by cases state <;> decide)

theorem of_value_to_value (state : ServiceState) : ofValue state.toValue = some state := by
  cases state <;> rfl

theorem decode_encode (state : ServiceState) : decode state.encode = .ok state :=
  Json.Shape.decode_compact state.reads_back state.of_value_to_value

end ServiceState

def countValue (count : UInt64) : Value := .number (.integer count.toNat)

theorem count_reads_back (count : UInt64) : ReadsBack countShape (countValue count) := by
  have bounded : count.toNat ≤ largestCount := Nat.le_of_lt_succ count.toNat_lt
  refine Json.Shape.reads_optional (Json.Shape.reads_count bounded (by decide)) ?_ nofun
  rintro number same
  cases same
  exact ⟨by omega, Int.ofNat_lt.2 (Nat.lt_succ_of_le bounded)⟩

theorem count_of_count_value (count : Option UInt64) : count? (count.map countValue) = count := by
  cases count with
  | none => rfl
  | some count => exact congrArg some UInt64.ofNat_toNat

namespace ClusterSummary

def fieldValues (summary : ClusterSummary) : List (String × Option Value) :=
  fieldNames.zip (summary.counts.map (·.map countValue))

theorem present_counts (names : List String) (counts : List (Option UInt64)) :
    present (names.zip (counts.map (·.map countValue))) =
      (names.zip counts).flatMap fun (name, count) => presentCount name count := by
  induction names generalizing counts with
  | nil => rfl
  | cons name names induction =>
      cases counts with
      | nil => rfl
      | cons count counts =>
          have later := induction counts
          cases count with
          | none => exact later
          | some count => exact congrArg ((name, countValue count) :: ·) later

theorem to_value_eq (summary : ClusterSummary) :
    summary.toValue = .object (present summary.fieldValues) := by
  rw [toValue, fieldValues, present_counts]

theorem counts_read {names : List String} {counts : List (Option UInt64)}
    (same : names.length = counts.length) :
    FieldsRead (names.map fun name => Json.Shape.defaulted name countShape)
      (names.zip (counts.map (·.map countValue))) := by
  induction names generalizing counts with
  | nil => exact .nil
  | cons name names induction =>
      cases counts with
      | nil => cases same
      | cons count counts =>
          exact .cons (Json.Shape.reads_defaulted count_reads_back name count)
            (induction (Nat.succ.inj same))

theorem reads_back (summary : ClusterSummary) : ReadsBack shape summary.toValue := by
  rw [to_value_eq]
  exact Json.Shape.reads_record (by decide) (counts_read rfl)

theorem of_value_to_value (summary : ClusterSummary) : ofValue summary.toValue = some summary := by
  have nodup : (summary.fieldValues.map (·.1)).Nodup := by
    rw [show summary.fieldValues.map (·.1) = fieldNames from rfl]
    decide
  have value (index : Fin 9) :
      count? ((fieldNames[index]?).bind fun name => latest? name (present summary.fieldValues)) =
        summary.counts.get index := by
    have member : (fieldNames.get index, (summary.counts.get index).map countValue) ∈
        summary.fieldValues := by
      refine List.mem_iff_getElem.2 ⟨index, index.isLt, ?_⟩
      simp only [fieldValues, List.getElem_zip, List.getElem_map]
      rfl
    have named : fieldNames[index]? = some (fieldNames.get index) :=
      List.getElem?_eq_getElem index.isLt
    rw [named, Option.bind_some, Json.latest_present nodup member, count_of_count_value]
  rw [to_value_eq]
  exact congrArg (fun count => some (ofCounts count)) (funext value)

theorem decode_encode (summary : ClusterSummary) : decode summary.encode = .ok summary :=
  Json.Shape.decode_compact summary.reads_back summary.of_value_to_value

end ClusterSummary

namespace ConnectionStatus

def fieldValues (status : ConnectionStatus) : List (String × Option Value) :=
  [("status", some status.state.toValue), ("message", status.message.map .string),
    ("cluster_info", status.cluster.map ClusterSummary.toValue)]

theorem to_value_eq (status : ConnectionStatus) :
    status.toValue = .object (present status.fieldValues) := by
  obtain ⟨state, message, cluster⟩ := status
  cases message <;> cases cluster <;> rfl

theorem reads_back (status : ConnectionStatus) : ReadsBack shape status.toValue := by
  have summary_reads (summary : ClusterSummary) :
      ReadsBack (Json.Shape.optional ClusterSummary.shape) summary.toValue :=
    Json.Shape.reads_optional summary.reads_back nofun nofun
  rw [to_value_eq]
  exact Json.Shape.reads_record (by decide)
    (.cons (.written status.state.reads_back)
      (.cons (Json.Shape.reads_defaulted Json.Shape.reads_optional_text _ _)
        (.cons (Json.Shape.reads_defaulted summary_reads _ _) .nil)))

theorem of_value_to_value (status : ConnectionStatus) : ofValue status.toValue = some status := by
  have latest (name : String) (value : Option Value)
      (member : (name, value) ∈ status.fieldValues) :
      latest? name (present status.fieldValues) = value :=
    Json.latest_present (show ["status", "message", "cluster_info"].Nodup by decide) member
  have text (text : String) : Value.string? (.string text) = some text := rfl
  rw [to_value_eq, ofValue, latest "status" (some status.state.toValue) (by simp [fieldValues]),
    latest "message" (status.message.map .string) (by simp [fieldValues]),
    latest "cluster_info" (status.cluster.map ClusterSummary.toValue) (by simp [fieldValues]),
    Option.bind_some, ServiceState.of_value_to_value, Json.bind_map_written text,
    Json.bind_map_written ClusterSummary.of_value_to_value]
  rfl

theorem decode_encode (status : ConnectionStatus) : decode status.encode = .ok status :=
  Json.Shape.decode_compact status.reads_back status.of_value_to_value

end ConnectionStatus

namespace ConnectionReport

def fieldValues (report : ConnectionReport) : List (String × Option Value) :=
  [("gemini", some report.gemini.toValue), ("recon", some report.recon.toValue)]

theorem to_value_eq (report : ConnectionReport) :
    report.toValue = .object (present report.fieldValues) := rfl

theorem reads_back (report : ConnectionReport) : ReadsBack shape report.toValue := by
  rw [to_value_eq]
  exact Json.Shape.reads_record (by decide)
    (.cons (.written report.gemini.reads_back) (.cons (.written report.recon.reads_back) .nil))

theorem of_value_to_value (report : ConnectionReport) : ofValue report.toValue = some report := by
  change ((ConnectionStatus.ofValue report.gemini.toValue).bind fun gemini =>
    (ConnectionStatus.ofValue report.recon.toValue).bind fun recon =>
      some (ConnectionReport.mk gemini recon)) = some report
  rw [ConnectionStatus.of_value_to_value, ConnectionStatus.of_value_to_value]
  rfl

theorem decode_encode (report : ConnectionReport) : decode report.encode = .ok report :=
  Json.Shape.decode_compact report.reads_back report.of_value_to_value

end ConnectionReport

end ReconChat

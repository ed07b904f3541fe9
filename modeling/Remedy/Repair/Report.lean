import Remedy.Term.Basic
import Remedy.Toml.Basic
import Remedy.Toml.Parser
/-!
# Repair.Report — what is wrong with an entity

An observer of the cluster reports on one entity: a node, a service on it, a replica of a partition, a process of the
system.  What does not apply is empty.  The report becomes the goal that the rules of a repair have to decide.
-/
namespace Remedy.Repair

/-! ## Why there is no repair

A request is not accepted, or what should carry it out is broken.
-/

/-- **Why there is no repair.** -/
inductive RepairError
  | rejected (reason : String)
  | backend (message : String)
  deriving DecidableEq

def RepairError.message : RepairError → String
  | .rejected reason => "Repair rejected: " ++ reason
  | .backend message => "Repair backend error: " ++ message

/-! ## What is reported -/

/-- **A report on an entity.** -/
structure Report where
  appName : String := ""
  errorCode : String := ""
  metricName : String := ""
  metricValue : Float := 0
  nodeName : String := ""
  nodeType : String := ""
  observerName : String := ""
  os : String := ""
  serviceName : String := ""
  systemServiceProcessName : String := ""
  partitionId : String := ""
  replicaOrInstanceId : Int64 := 0
  healthEventProperty : String := ""

def entryFunctor : String := "Mitigate"

namespace Report

/-- The report in a document; keys that are no part of a report do not count. -/
def ofEntries? (fields : List (String × Toml)) : Option Report := do
  let text := Toml.withDefault Toml.string? ""
  let appName ← text "AppName" fields
  let errorCode ← text "ErrorCode" fields
  let metricName ← text "MetricName" fields
  let metricValue ← Toml.withDefault Toml.float? 0 "MetricValue" fields
  let nodeName ← text "NodeName" fields
  let nodeType ← text "NodeType" fields
  let observerName ← text "ObserverName" fields
  let os ← text "OS" fields
  let serviceName ← text "ServiceName" fields
  let systemServiceProcessName ← text "SystemServiceProcessName" fields
  let partitionId ← text "PartitionId" fields
  let replicaOrInstanceId ← Toml.withDefault Toml.int? 0 "ReplicaOrInstanceId" fields
  let healthEventProperty ← text "HealthEventProperty" fields
  some ⟨appName, errorCode, metricName, metricValue, nodeName, nodeType, observerName, os, serviceName,
    systemServiceProcessName, partitionId, replicaOrInstanceId, healthEventProperty⟩

/-- **The report that a document spells.** -/
def parse (text : String) : Except RepairError Report :=
  match (Toml.parse? text).bind ofEntries? with
  | some r => .ok r
  | none => .error (.rejected "invalid repair facts")

/-- **The goal that decides the repair**: every part of the report under its name. -/
def goal (r : Report) : Call :=
  let text (name s : String) : Arg Term := ⟨some name, .const (.string s)⟩
  ⟨entryFunctor, [
    text "AppName" r.appName,
    text "ErrorCode" r.errorCode,
    text "MetricName" r.metricName,
    ⟨some "MetricValue", .const (.float r.metricValue)⟩,
    text "NodeName" r.nodeName,
    text "NodeType" r.nodeType,
    text "ObserverName" r.observerName,
    text "OS" r.os,
    text "PartitionId" r.partitionId,
    ⟨some "ReplicaOrInstanceId", .const (.int r.replicaOrInstanceId)⟩,
    text "ServiceName" r.serviceName,
    text "SystemServiceProcessName" r.systemServiceProcessName]⟩

/-- What tells entities apart; a replica has a positive number. -/
def parts (r : Report) : List String :=
  [r.nodeName, r.serviceName, r.partitionId,
    if 0 < r.replicaOrInstanceId then toString r.replicaOrInstanceId.toInt else "", r.systemServiceProcessName]

/-- **The name of the entity**: the parts that are not empty, joined by underscores. -/
def entity (r : Report) : String := "_".intercalate (r.parts.filter (· != ""))

/-- The property of the health events that have to do with the report: its own, or else the metric. -/
def eventProperty (r : Report) : String := if r.healthEventProperty = "" then r.metricName else r.healthEventProperty

end Report

end Remedy.Repair

import IncidentTriage.Domain.Enums
import IncidentTriage.Evidence.Sanitize

/-! # The deployment and configuration evidence

The adapter reads the tail of a service's append-only registries.  Of the records of one
environment it takes those that are not later than the end of the window: the last one is
what is current, and the last one of each configuration key is what is effective.  An
operation on a record that raises makes the whole observation raise: the result is `none`.
-/

namespace IncidentTriage.Evidence

open IncidentTriage.Python IncidentTriage.Domain

/-- Only the tail of each append-only list is ever scanned. -/
def maxRecordsScanned : Nat := 500

def scanned (registry : List Dict) : List Dict :=
  registry.drop (registry.length - maxRecordsScanned)

/-- `record.get("environment") == environment`. -/
def ofEnvironment (environment : String) (record : Dict) : Bool :=
  ((Dict.get? record "environment").getD .null).eq (.str environment)

section
variable (fromIsoformat : Json → Option Time)

/-- The parsed timestamp of a record, if it has one. -/
def parseTs (field : String) (record : Dict) : Option Time :=
  (Dict.get? record field).bind fromIsoformat

/-- `[r for r in records if keep(parse_ts(r[field]))]`. -/
def keepByTs (field : String) (keep : Time → Bool) : List Dict → Option (List Dict)
  | [] => some []
  | record :: records => do
    let at_ ← parseTs fromIsoformat field record
    let kept ← keepByTs field keep records
    some (if keep at_ then record :: kept else kept)

/-- `records.sort(key=lambda r: r[field], reverse=True)`, which keeps the order of equals. -/
def latestFirst (field : String) (records : List Dict) : List Dict :=
  let key := fun record : Dict => ((Dict.get? record field).getD .null).text
  records.mergeSort (fun a b => decide (key b ≤ key a))

/-- When the newest of the records was made, or the end of the window. -/
def observedAt (field : String) (end_ : Time) : Option Dict → Option Time
  | some record => parseTs fromIsoformat field record
  | none => some end_

def viewOf (keys : List String) (record : Dict) : Dict :=
  keys.map (fun key => (key, (Dict.get? record key).getD .null))

def deploymentView : Dict → Dict :=
  viewOf ["deployment_id", "version", "previous_version", "commit_sha", "deployed_at",
    "deployed_by", "change_type"]

def configView : Dict → Dict :=
  viewOf ["change_id", "key", "old_value", "new_value", "changed_at", "changed_by"]

/-- The summary names the version of the current deployment. -/
def summaryVersion : Option Dict → Option (Option Json)
  | some record => (Dict.get? record "version").map some
  | none => some none

/-- What the observation of recent deployments reports. -/
structure DeploymentsObservation where
  current : Option Dict
  deploymentsInWindow : List Dict
  deploymentsInWindowTotal : Nat
  deploymentIds : List Json
  rawTruncated : Bool
  observedAt : Time

def deployments (registry : List Dict) (environment : String) (start end_ : Time) (limit : Nat) :
    Option DeploymentsObservation := do
  let records := (scanned registry).filter (ofEnvironment environment)
  let asOfEnd ← keepByTs fromIsoformat "deployed_at" (fun at_ => at_ ≤ end_) records
  let inWindow ← keepByTs fromIsoformat "deployed_at" (fun at_ => start ≤ at_) asOfEnd
  let current := asOfEnd.getLast?
  let shown := (latestFirst "deployed_at" inWindow).take limit
  let _ ← summaryVersion current
  let deploymentIds ← shown.mapM (fun record => Dict.get? record "deployment_id")
  let newest ← observedAt fromIsoformat "deployed_at" end_ current
  some
    { current := current.map deploymentView
      deploymentsInWindow := shown.map deploymentView
      deploymentsInWindowTotal := inWindow.length
      deploymentIds := deploymentIds
      rawTruncated := decide (limit < inWindow.length)
      observedAt := newest }

/-- `effective[clean_text(str(record["key"]), 120)] = record["new_value"]`, record by record. -/
def effectiveConfig : Dict → List Dict → Option Dict
  | effective, [] => some effective
  | effective, record :: records => do
    let key ← Dict.get? record "key"
    let value ← Dict.get? record "new_value"
    effectiveConfig (dictSet effective (cleanText key.text 120) value) records

/-- What the observation of configuration changes reports. -/
structure ConfigObservation where
  effectiveConfig : Dict
  changesInWindow : List Dict
  changesInWindowTotal : Nat
  changeIds : List Json
  rawTruncated : Bool
  observedAt : Time

def configChanges (registry : List Dict) (environment : String) (start end_ : Time) (limit : Nat) :
    Option ConfigObservation := do
  let records := (scanned registry).filter (ofEnvironment environment)
  let asOfEnd ← keepByTs fromIsoformat "changed_at" (fun at_ => at_ ≤ end_) records
  let inWindow ← keepByTs fromIsoformat "changed_at" (fun at_ => start ≤ at_) asOfEnd
  let effective ← effectiveConfig [] asOfEnd
  let shown := (latestFirst "changed_at" inWindow).take limit
  let changeIds ← shown.mapM (fun record => Dict.get? record "change_id")
  let newest ← observedAt fromIsoformat "changed_at" end_ asOfEnd.getLast?
  some
    { effectiveConfig := effective
      changesInWindow := shown.map configView
      changesInWindowTotal := inWindow.length
      changeIds := changeIds
      rawTruncated := decide (limit < inWindow.length)
      observedAt := newest }

end

end IncidentTriage.Evidence

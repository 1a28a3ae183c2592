import IncidentTriage.Evidence.Scope
import IncidentTriage.Python.Floats

/-! # What the telemetry operations send

The instants and ranges in the requests of the metric, log and trace operations, in
microseconds.  `timestamp()` prints an instant as it is; the integers made from it are cut to
whole seconds, or pass through a float as nanoseconds.
-/

namespace IncidentTriage.Evidence

open IncidentTriage.Python

/-- A range that a request names; an instant is a range of its own. -/
structure SentRange where
  first : ℚ
  last : ℚ
  deriving DecidableEq

def instantAt (at_ : Time) : SentRange := ⟨at_, at_⟩

/-- `int(value.timestamp())`, in microseconds. -/
def wholeSeconds (at_ : Time) : Int := at_.tdiv 1000000 * 1000000

/-- `int(value.timestamp() * 1e9)`. -/
def nanoseconds (at_ : Time) : Int :=
  truncateFloat (roundDouble (roundDouble (at_ / 1000000) * 1000000000))

namespace PrometheusAdapter

/-- The window, the window before it that it is compared with, and its end. -/
def metricWindow (start end_ : Time) : List SentRange :=
  let length := end_ - start
  let baselineStart := start - length
  let baselineEnd := start
  [⟨start, end_⟩, ⟨baselineStart, baselineEnd⟩, instantAt end_]

def healthSignals : List String :=
  ["availability", "error_rate", "latency_p95", "request_rate", "cpu_usage"]

/-- One instant query for each signal, and one for the memory. -/
def serviceHealth (at_ : Time) : List SentRange :=
  (healthSignals ++ ["memory_usage"]).map (fun _ => instantAt at_)

end PrometheusAdapter

namespace LokiAdapter

/-- A count over the whole seconds of the window, up to its end. -/
def count (start end_ : Time) : SentRange :=
  let seconds := max 1 ((end_ - start).tdiv 1000000)
  ⟨end_ - seconds * 1000000, end_⟩

/-- The lines, and the counts of all of them and of the errors. -/
def queryLogs (start end_ : Time) : List SentRange :=
  [⟨nanoseconds start / 1000, nanoseconds end_ / 1000⟩, count start end_, count start end_]

end LokiAdapter

namespace TempoAdapter

def search (start end_ : Time) : List SentRange := [⟨wholeSeconds start, wholeSeconds end_⟩]

end TempoAdapter

/-- The telemetry operations of the service, with the times a caller supplies. -/
inductive TelemetryQuery where
  | metricWindow (start end_ : Option SuppliedTime)
  | serviceHealth (at_ : Option SuppliedTime)
  | logs (start end_ : Option SuppliedTime)
  | trace
  | traces (start end_ : Option SuppliedTime)

/-- The window that an operation resolves, and what it sends of it. -/
def TelemetryQuery.sent (scope : IncidentScope) (now : Time) :
    TelemetryQuery → Except WindowError (List SentRange)
  | .metricWindow start end_ => do
    let window ← scope.window start end_ now
    pure (PrometheusAdapter.metricWindow window.1 window.2)
  | .serviceHealth at_ => do
    let window ← scope.window none at_ now minWindow
    pure (PrometheusAdapter.serviceHealth window.2)
  | .logs start end_ => do
    let window ← scope.window start end_ now
    pure (LokiAdapter.queryLogs window.1 window.2)
  -- a trace is asked for by its identifier alone
  | .trace => pure []
  | .traces start end_ => do
    let window ← scope.window start end_ now
    pure (TempoAdapter.search window.1 window.2)

end IncidentTriage.Evidence

import IncidentTriage.Evidence.Sanitize
import IncidentTriage.Library.Groups
import IncidentTriage.Tools.Executor

/-! # Controlled Loki adapter

What becomes of the lines that Loki returns: each is parsed into an entry, the entries are
grouped by severity and message, and the groups are ranked and counted by severity.  A line is
any text, and its severity any JSON value; as a key of a dict or of a sort a value may raise.
-/

namespace IncidentTriage.Evidence.Loki

open IncidentTriage.Python IncidentTriage.Domain IncidentTriage.Tools

def maxLogLinesFetched : Nat := 500
def maxLogLinesReturned : Nat := 20
def maxLogLineChars : Nat := 2000
def maxLogMessageChars : Nat := 300

/-- The exceptions that are no evidence errors. -/
inductive LogFault where
  | typeError | recursionError
  deriving DecidableEq, Repr

/-- `json.loads`, and the texts on which it exceeds the recursion limit. -/
structure LineParser where
  loads : String → Option Json
  tooDeep : String → Bool

/-! ## One line -/

structure LogEntry where
  timestamp : Json := .null
  severity : Json := .null
  message : String
  kept : List (String × String) := []
  fields : List (String × String) := []

def keepFields : List String := ["request_id", "trace_id", "span_id"]

def dropFields : List String :=
  ["service", "environment", "region", "timestamp", "severity", "message"]

/-- The first ten of the other fields, by their cleaned names. -/
def otherFields (parsed : Dict) : List (String × String) :=
  let others := parsed.filter (fun f => !dropFields.contains f.1 && !keepFields.contains f.1)
  let fields := others.foldl
    (fun fields f => dictSet fields (cleanText f.1 64) (cleanText f.2.text 200)) []
  (fields.insertionSort (fun a b => decide (a.1 ≤ b.1))).take 10

def entryOf (parsed : Dict) : LogEntry where
  timestamp := (parsed.get? "timestamp").getD .null
  severity := (parsed.get? "severity").getD .null
  message := cleanText ((parsed.get? "message").getD (.str "")).text maxLogMessageChars
  kept := keepFields.filterMap (fun key =>
    (parsed.get? key).map (fun value => (key, cleanText value.text 64)))
  fields := otherFields parsed

/-- `_parse_line`; a line that is no JSON object is a message. -/
def parseLine (p : LineParser) (line : String) : Except LogFault LogEntry :=
  if p.tooDeep line then .error .recursionError
  else
    match p.loads line with
    | some (.object parsed) => .ok (entryOf parsed)
    | _ => .ok { message := cleanText line maxLogMessageChars }

/-! ## Keys -/

/-- Equality of keys.  `json` has one object for `NaN`, and an object is the same key as
itself. -/
def sameKey (a b : Json) : Bool :=
  a.eq b || (a.number? == some .nan && b.number? == some .nan)

/-- `a < b`, between numbers or between texts. -/
def lessKey (a b : Json) : Except LogFault Bool :=
  match a.number?, b.number? with
  | some x, some y => .ok (x.le y && !x.eq y)
  | _, _ =>
    match a, b with
    | .str s, .str t => .ok (decide (s < t))
    | _, _ => .error .typeError

/-- `severity or default`. -/
def orText (severity : Json) (default : String) : Json :=
  if severity.truthy then severity else .str default

/-! ## Groups -/

structure LogGroup where
  count : Nat := 1
  lastSeen : Json
  firstSeen : Json
  entry : LogEntry

/-- The groups, each under its severity and message. -/
abbrev LogGroups := List ((Json × String) × LogGroup)

def addEntry (groups : LogGroups) (entry : LogEntry) : Except LogFault LogGroups :=
  if !entry.severity.isScalar then .error .typeError
  else
    .ok (Groups.upsert (fun key => sameKey key.1 entry.severity && key.2 == entry.message)
      ((entry.severity, entry.message),
        { lastSeen := entry.timestamp, firstSeen := entry.timestamp, entry })
      (fun group => { group with count := group.count + 1, firstSeen := entry.timestamp }) groups)

def addLines (p : LineParser) : LogGroups → List String → Except LogFault LogGroups
  | groups, [] => .ok groups
  | groups, line :: lines =>
    match parseLine p line with
    | .error fault => .error fault
    | .ok entry =>
      match addEntry groups entry with
      | .error fault => .error fault
      | .ok groups => addLines p groups lines

/-- The key `(-count, severity or "", message)`. -/
def rankedBefore (a b : (Json × String) × LogGroup) : Except LogFault Bool :=
  let severity := orText a.1.1 ""
  let severity' := orText b.1.1 ""
  if a.2.count != b.2.count then .ok (decide (b.2.count < a.2.count))
  else if !sameKey severity severity' then lessKey severity severity'
  else .ok (decide (a.1.2 < b.1.2))

def severityCounts (groups : LogGroups) : List (Json × Nat) :=
  groups.foldl (fun counts group =>
    let severity := orText group.1.1 "UNSTRUCTURED"
    Groups.upsert (fun key => sameKey key severity) (severity, group.2.count)
      (fun count => count + group.2.count) counts) []

def countedBefore (a b : Json × Nat) : Except LogFault Bool :=
  if !sameKey a.1 b.1 then lessKey a.1 b.1 else .ok (decide (a.2 < b.2))

/-! ## The observation -/

/-- A stream of a response: its values are timestamps and lines. -/
structure LogStream where
  values : List (Int × String)

/-- The lines of all streams, cut, the newest first. -/
def linesOf (streams : List LogStream) : List String :=
  let lines := streams.flatMap (fun stream =>
    stream.values.map (fun value => (value.1, truncate value.2 maxLogLineChars)))
  (lines.insertionSort (fun a b => decide (b.1 ≤ a.1))).map (·.2)

/-- The part of the normalized payload that is made of the lines. -/
structure LogView where
  linesFetched : Nat
  fetchTruncated : Bool
  severityCounts : List (Json × Nat)
  representative : List ((Json × String) × LogGroup)

/-- `query_logs`, from the streams of a successful response. -/
def queryLogs (p : LineParser) (limit : Nat) (streams : List LogStream) :
    Except LogFault LogView :=
  let lines := linesOf streams
  let cut := streams.any (fun stream =>
    stream.values.any (fun value => decide (maxLogLineChars < value.2.length)))
  match addLines p [] lines with
  | .error fault => .error fault
  | .ok groups =>
    match Groups.sort rankedBefore groups with
    | .error fault => .error fault
    | .ok ranked =>
      match Groups.sort countedBefore (severityCounts groups) with
      | .error fault => .error fault
      | .ok severityCounts =>
        .ok {
          linesFetched := lines.length
          fetchTruncated := cut || decide (maxLogLinesFetched ≤ lines.length)
          severityCounts
          representative := ranked.take (min limit maxLogLinesReturned) }

end IncidentTriage.Evidence.Loki

namespace IncidentTriage.Tools

open IncidentTriage.Python IncidentTriage.Domain IncidentTriage.Evidence

/-- `execute` of a log query: the handler reads the logs and records what it made of them.  Only
evidence errors are caught. -/
def ToolExecutor.executeLogs (x : ToolExecutor) (problems : List Problem)
    (read : Except Loki.LogFault EvidenceItem) (arguments : Dict) :
    Except Loki.LogFault (ToolResult × ToolExecutor) :=
  match x.overBudget "get_logs" arguments with
  | some error => .ok (.failure error, x)
  | none =>
    let x := x.counted "get_logs" arguments
    if problems ≠ [] then
      .ok (.failure { code := "invalid_argument", message := problemsText problems }, x)
    else
      match read with
      | .error fault => .error fault
      | .ok item => .ok (.success item, x)

end IncidentTriage.Tools

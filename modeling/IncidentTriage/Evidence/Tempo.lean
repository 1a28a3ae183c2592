import IncidentTriage.Evidence.Sanitize
import IncidentTriage.Library.Walks

/-! # The trace evidence

A trace comes back as batches of spans.  The raw response is stored with a bounded number of
them, and the normalized payload is a summary: a tree of spans, the calls between services,
the error spans and the slowest ones.  A span is known by its place in the trace: its
identifiers are untrusted, and may be missing or repeated.
-/

namespace IncidentTriage.Evidence

open IncidentTriage.Python IncidentTriage.Library

def maxRawSpans : Nat := 1000
def maxSpansInSummary : Nat := 50

structure Attribute where
  key : String
  value : Dict

/-- A span as the backend returns it; a field that is missing is `none`. -/
structure Span where
  spanId : Option String := none
  parentSpanId : Option String := none
  name : Option Json := none
  kind : Option Json := none
  startTimeUnixNano : Option Int := none
  endTimeUnixNano : Option Int := none
  statusCode : Option Json := none
  attributes : List Attribute := []

structure Scope where
  spans : List Span := []

/-- A batch lists its spans under one of two keys, by the version of the protocol. -/
structure Batch where
  resourceAttributes : List Attribute := []
  scopeSpans : Option (List Scope) := none
  instrumentationLibrarySpans : Option (List Scope) := none

structure Trace where
  batches : List Batch := []

/-- `batch.get("scopeSpans") or batch.get("instrumentationLibrarySpans") or []`. -/
def Batch.scopes (batch : Batch) : List Scope :=
  match batch.scopeSpans with
  | some (scope :: scopes) => scope :: scopes
  | _ => batch.instrumentationLibrarySpans.getD []

def spansOf (scopes : List Scope) : List Span := scopes.flatMap (·.spans)

/-! ## The raw response -/

/-- Cut the spans of the scopes to the room that is left; how many are kept by then, and
whether any was dropped. -/
def boundScopes : Nat → List Scope → List Scope × Nat × Bool
  | kept, [] => ([], kept, false)
  | kept, scope :: scopes =>
    let room := maxRawSpans - kept
    let spans := if room < scope.spans.length then scope.spans.take room else scope.spans
    let rest := boundScopes (kept + spans.length) scopes
    ({ scope with spans } :: rest.1, rest.2.1, decide (room < scope.spans.length) || rest.2.2)

/-- Every batch with its scopes rewritten: what else it holds is copied. -/
def boundBatches : Nat → List Batch → List Batch × Bool
  | _, [] => ([], false)
  | kept, batch :: batches =>
    let scopes := boundScopes kept batch.scopes
    let rest := boundBatches scopes.2.1 batches
    ({ batch with scopeSpans := some scopes.1 } :: rest.1, scopes.2.2 || rest.2)

/-- `_bounded_trace`. -/
def boundedTrace (trace : Trace) : Trace × Bool :=
  let batches := boundBatches 0 trace.batches
  ({ batches := batches.1 }, batches.2)

/-! ## Identifiers -/

/-- The value of a character of base 64. -/
def sextet (c : Char) : Option Nat :=
  if 'A' ≤ c ∧ c ≤ 'Z' then some (c.toNat - 65)
  else if 'a' ≤ c ∧ c ≤ 'z' then some (c.toNat - 71)
  else if '0' ≤ c ∧ c ≤ '9' then some (c.toNat + 4)
  else if c = '+' then some 62
  else if c = '/' then some 63
  else none

/-- `base64.b64decode` from the middle of a group of four: other characters are skipped, and
a group that is padded to its end ends the text. -/
def decodeGroups (place pending pads : Nat) : List Char → Option (List Nat)
  | [] => if place = 0 then some [] else none
  | c :: rest =>
    if c = '=' then
      if 2 ≤ place ∧ 4 ≤ place + (pads + 1) then some []
      else decodeGroups place pending (if 2 ≤ place then pads + 1 else pads) rest
    else
      match sextet c with
      | none => decodeGroups place pending pads rest
      | some value =>
        if place = 0 then decodeGroups 1 value 0 rest
        else if place = 1 then
          (decodeGroups 2 (value % 16) 0 rest).map (fun bytes => (pending * 4 + value / 16) :: bytes)
        else if place = 2 then
          (decodeGroups 3 (value % 4) 0 rest).map (fun bytes => (pending * 16 + value / 4) :: bytes)
        else (decodeGroups 0 0 0 rest).map (fun bytes => (pending * 64 + value) :: bytes)

def b64decode (text : String) : Option (List Nat) :=
  if text.toList.all (fun c => c.toNat < 128) then decodeGroups 0 0 0 text.toList else none

def isHexDigit (c : Char) : Bool := ('0' ≤ c && c ≤ '9') || ('a' ≤ c && c ≤ 'f')

/-- `_HEX.match`: the end of the pattern may stand before a last newline. -/
def matchesHex (text : String) : Bool :=
  let body := if text.toList.getLast? == some '\n' then text.toList.dropLast else text.toList
  !body.isEmpty && body.all isHexDigit

/-- `_hex_id`. -/
def hexId : Option String → Option String
  | none => none
  | some value =>
    if value.isEmpty then none
    else if matchesHex value && (value.length == 16 || value.length == 32) then some value
    else (b64decode value).map (fun bytes => String.ofList (bytes.flatMap (hexDigits 2)))

/-! ## The summary -/

/-- The first value an attribute of this name has. -/
def attr (attributes : List Attribute) (key : String) : Option Json :=
  (attributes.filter (fun a => a.key == key)).findSome? (fun a =>
    ["stringValue", "intValue", "doubleValue", "boolValue"].findSome? (Dict.get? a.value))

def isError (span : Span) : Bool :=
  let code := span.statusCode.getD .null
  code.eq (.str "STATUS_CODE_ERROR") || code.eq (.int 2)

/-- Nanoseconds as milliseconds of three digits. -/
def milliseconds (ns : ℚ) : ℚ := roundHalfEven (ns / 1000) / 1000

/-- What a summary keeps of a span. -/
structure SpanView where
  spanId : Option String
  parentSpanId : Option String
  service : Option Json
  name : String
  kind : String
  startNs : Int
  durationMs : ℚ
  error : Bool
  httpStatus : Option Json
  peerService : Option Json

def removePrefix (head text : String) : String :=
  if head.toList.isPrefixOf text.toList then String.ofList (text.toList.drop head.length) else text

def orElse (value otherwise : Option Json) : Option Json :=
  if (value.map Json.truthy).getD false then value else otherwise

def viewSpan (service : Option Json) (span : Span) : SpanView :=
  let start := span.startTimeUnixNano.getD 0
  let end_ := span.endTimeUnixNano.getD start
  { spanId := hexId span.spanId
    parentSpanId := hexId span.parentSpanId
    service := orElse service (attr span.attributes "service.name")
    name := cleanText (span.name.getD (.str "")).text 120
    kind := (removePrefix "SPAN_KIND_" (span.kind.getD (.str "")).text).toLower
    startNs := start
    durationMs := milliseconds (end_ - start)
    error := isError span
    httpStatus := attr span.attributes "http.status_code"
    peerService := attr span.attributes "peer.service" }

def viewBatch (batch : Batch) : List SpanView :=
  (spansOf batch.scopes).map (viewSpan (attr batch.resourceAttributes "service.name"))

def viewTrace (trace : Trace) : List SpanView := trace.batches.flatMap viewBatch

section
variable (spans : List SpanView)

/-- `key in by_id`: some span has this identifier, and it is not empty. -/
def knownId (key : String) : Bool :=
  !key.isEmpty && spans.any (fun span => span.spanId == some key)

/-- `by_id.get(key)`: the last span of this identifier. -/
def byId (key : Option String) : Option SpanView :=
  match key with
  | some id => if id.isEmpty then none else spans.reverse.find? (fun span => span.spanId == some id)
  | none => none

/-- The key that a span is listed under: its parent's identifier, where it is known. -/
def parentKey (span : SpanView) : Option String :=
  span.parentSpanId.filter (knownId spans)

/-- By start and identifier. -/
def siblingBefore (a b : SpanView × Nat) : Bool :=
  let key := fun span : SpanView => span.spanId.getD ""
  decide (a.1.startNs < b.1.startNs ∨ (a.1.startNs = b.1.startNs ∧ key a.1 ≤ key b.1))

/-- `children.get(key, [])`, as places in the trace. -/
def childrenAt (key : Option String) : List Nat :=
  ((spans.zipIdx.filter (fun entry => parentKey spans entry.1 == key)).insertionSort
    (fun a b => siblingBefore a b = true)).map (·.2)

def spanIdAt (place : Nat) : Option String := (spans[place]?).bind (·.spanId)

/-- The spans listed under the identifier of the one at this place. -/
def childrenOf (place : Nat) : List Nat := childrenAt spans (spanIdAt spans place)

/-- The places that `walk` lists, each with its depth. -/
def listedPlaces : Option (List (Nat × Nat)) :=
  walk (childrenOf spans) maxSpansInSummary maxSpansInSummary 0 (childrenAt spans none) []

end

/-- An entry of the tree, with the place of its span. -/
structure TreeEntry where
  place : Nat
  span : SpanView
  depth : Nat

def treeEntries (spans : List SpanView) (listed : List (Nat × Nat)) : List TreeEntry :=
  listed.filterMap (fun entry =>
    (spans[entry.1]?).map (fun span => { place := entry.1, span, depth := entry.2 }))

/-- `brief`. -/
structure SpanBrief where
  spanId : Option String
  service : Option Json
  name : String
  durationMs : ℚ
  httpStatus : Option Json

def brief (span : SpanView) : SpanBrief :=
  { spanId := span.spanId, service := span.service, name := span.name
    durationMs := span.durationMs, httpStatus := span.httpStatus }

/-- The service of a span, where it names one. -/
def serviceName (span : SpanView) : Option String :=
  (orElse span.service none).map Json.text

/-- The call from another service that a span is, if it is one. -/
def edgeOf (spans : List SpanView) (span : SpanView) : Option (String × String) := do
  let parent ← byId spans span.parentSpanId
  let caller ← serviceName parent
  let service ← serviceName span
  if caller = service then none else some (caller, service)

/-- The calls between services and how many there were, sorted. -/
def serviceEdges (spans : List SpanView) : List ((String × String) × Nat) :=
  let edges := spans.filterMap (edgeOf spans)
  (edges.dedup.insertionSort (fun a b => decide (a.1 < b.1 ∨ (a.1 = b.1 ∧ a.2 ≤ b.2)))).map
    (fun edge => (edge, edges.count edge))

structure TraceSummary where
  traceId : String
  spanCount : Nat
  services : List String
  root : Option Json × String
  startNs : Int
  durationMs : ℚ
  errorSpanCount : Nat
  errorSpans : List SpanBrief
  slowestSpans : List SpanBrief
  serviceEdges : List ((String × String) × Nat)
  spanTree : List TreeEntry
  spanTreeTruncated : Bool

inductive Summary where
  | notFound (traceId : String)
  | found (summary : TraceSummary)

/-- The summary of the spans, with the places that the walk listed. -/
def summaryOf (traceId : String) (first : SpanView) (others : List SpanView)
    (listed : List (Nat × Nat)) : TraceSummary :=
  let spans := first :: others
  let tree := treeEntries spans listed
  let root := (((childrenAt spans none).head?).bind (fun place => spans[place]?)).getD first
  let start := others.foldl (fun start span => min start span.startNs) first.startNs
  let endOf := fun span : SpanView => (span.startNs : ℚ) + span.durationMs * 1000000
  let end_ := others.foldl (fun end_ span => max end_ (endOf span)) (endOf first)
  { traceId
    spanCount := spans.length
    services := sortedStrings (spans.filterMap serviceName).dedup
    root := (root.service, root.name)
    startNs := start
    durationMs := milliseconds (end_ - start)
    errorSpanCount := (spans.filter (·.error)).length
    errorSpans := ((spans.filter (·.error)).map brief).take 10
    slowestSpans :=
      ((spans.mergeSort (fun a b => decide (b.durationMs ≤ a.durationMs))).map brief).take 5
    serviceEdges := serviceEdges spans
    spanTree := tree
    spanTreeTruncated := decide (tree.length < spans.length) }

/-- `summarize_trace`; `none` where the walk would not come to its end. -/
def summarizeTrace (traceId : String) (trace : Trace) : Option Summary :=
  match viewTrace trace with
  | [] => some (.notFound traceId)
  | first :: others =>
    (listedPlaces (first :: others)).map (fun listed =>
      .found (summaryOf traceId first others listed))

end IncidentTriage.Evidence

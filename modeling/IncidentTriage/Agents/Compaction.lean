import IncidentTriage.Python.Json

/-! # Compaction

A tool result is shrunk to a number of characters before a model sees it: long lists are
trimmed, first to eight entries and then to fewer, and what is left is cut where that is not
enough.
-/

namespace IncidentTriage.Agents

open IncidentTriage.Python

/-- `json.dumps(value, separators=(",", ":"))`. -/
def jsonText (value : Json) : String := value.dumpsWith {}

/-- A timestamp and a value. -/
def isPoint : Json → Bool
  | .list [.str _, _] => true
  | _ => false

/-- `_is_series`. -/
def isSeries (node : List Json) : Bool := !node.isEmpty && node.all isPoint

/-- `round(i * step)`.  The quotient is exact here; it is never half way between two places,
and far enough from there that a float of it leads to the same place in any list that fits in
memory. -/
def samplePlace (keep length i : Nat) : Nat :=
  let step : ℚ := ((length - 1 : Nat) : ℚ) / (max (keep - 1) 1 : Nat)
  (roundHalfEven (i * step)).toNat

/-- `sorted({round(i * step) for i in range(keep)})`. -/
def samplePlaces (keep length : Nat) : List Nat :=
  ((List.range keep).map (samplePlace keep length)).dedup.insertionSort (· ≤ ·)

def moreMarker (omitted : Nat) : String := "... " ++ toString omitted ++ " more"

def pointsMarker (points : Nat) : String :=
  "... downsampled from " ++ toString points ++ " points"

mutual

/-- `_trim_lists`. -/
def trimLists (keep : Nat) : Json → Json
  | .list node =>
    if isSeries node && keep < node.length then
      .list ((samplePlaces keep node.length).filterMap (node[·]?) ++
        [.str (pointsMarker node.length)])
    else
      let head := (trimItems keep node).take keep
      .list (head ++
        (if keep < node.length then [.str (moreMarker (node.length - keep))] else []))
  | .object fields => .object (trimFields keep fields)
  | node => node

def trimItems (keep : Nat) : List Json → List Json
  | [] => []
  | v :: items => trimLists keep v :: trimItems keep items

def trimFields (keep : Nat) : List (String × Json) → List (String × Json)
  | [] => []
  | (k, v) :: fields => (k, trimLists keep v) :: trimFields keep fields

end

/-- The loop of `compact`, from the number of entries it keeps. -/
def trimToFit (limit : Int) (keep : Nat) (value : Json) : Json :=
  if limit < (jsonText value).length ∧ 1 ≤ keep then
    trimToFit limit (keep / 2) (trimLists keep value)
  else value
termination_by keep

/-- `text[:end]`: a negative end counts from behind. -/
def sliceTo (text : String) (end_ : Int) : String :=
  truncate text (if 0 ≤ end_ then end_.toNat else text.length - (-end_).toNat)

/-- `compact`. -/
def compact (value : Json) (limit : Int) : String :=
  let text := jsonText (trimToFit limit 8 value)
  if limit < text.length then
    sliceTo text (limit - 60) ++ "...\"[truncated; full record in the evidence store]\""
  else text

end IncidentTriage.Agents

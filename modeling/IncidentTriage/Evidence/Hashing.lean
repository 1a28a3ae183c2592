import IncidentTriage.Python.Decimals
import IncidentTriage.Python.Text

/-! # Content hashes

The hash of a record is taken over the canonical JSON of the raw response, after a round trip
through that text, and an auditor computes it again from what the store hands back.
-/

namespace IncidentTriage.Evidence

open IncidentTriage.Python

/-! ## Sanitizing -/

def withoutNul (text : String) : String :=
  String.ofList (text.toList.filter (fun c => c != Char.ofNat 0))

mutual

/-- `strip_nul`: of two keys that become one, the later value stays in the earlier place. -/
def stripNul : Json → Json
  | .str value => .str (withoutNul value)
  | .object fields => .object (stripNulFields [] fields)
  | .list items => .list (stripNulItems items)
  | value => value

def stripNulItems : List Json → List Json
  | [] => []
  | v :: items => stripNul v :: stripNulItems items

/-- The fields, put into a dict one after the other. -/
def stripNulFields (entries : List (String × Json)) :
    List (String × Json) → List (String × Json)
  | [] => entries
  | (k, v) :: fields => stripNulFields (dictSet entries (withoutNul k) (stripNul v)) fields

end

/-! ## JSON texts -/

mutual

/-- Every int can be printed: Python refuses one of more than 4300 digits. -/
def intsFit : Json → Bool
  | .int i => decide (i.natAbs < 10 ^ maxNumeralDigits)
  | .list items => intsFitItems items
  | .object fields => intsFitFields fields
  | _ => true

def intsFitItems : List Json → Bool
  | [] => true
  | v :: items => intsFit v && intsFitItems items

def intsFitFields : List (String × Json) → Bool
  | [] => true
  | (_, v) :: fields => intsFit v && intsFitFields fields

end

mutual

/-- A value with each of its floats replaced. -/
def mapFloats (f : PyFloat → Json) : Json → Json
  | .float x => f x
  | .list items => .list (mapFloatItems f items)
  | .object fields => .object (mapFloatFields f fields)
  | value => value

def mapFloatItems (f : PyFloat → Json) : List Json → List Json
  | [] => []
  | v :: items => mapFloats f v :: mapFloatItems f items

def mapFloatFields (f : PyFloat → Json) : List (String × Json) → List (String × Json)
  | [] => []
  | (k, v) :: fields => (k, mapFloats f v) :: mapFloatFields f fields

end

mutual

/-- A value with the keys of each object in order. -/
def sortKeys : Json → Json
  | .list items => .list (sortKeysItems items)
  | .object fields =>
    .object ((sortKeysFields fields).insertionSort (fun a b => decide (a.1 ≤ b.1)))
  | value => value

def sortKeysItems : List Json → List Json
  | [] => []
  | v :: items => sortKeys v :: sortKeysItems items

def sortKeysFields : List (String × Json) → List (String × Json)
  | [] => []
  | (k, v) :: fields => (k, sortKeys v) :: sortKeysFields fields

end

/-- A float as it is read from its own text. -/
def rereadFloat (x : PyFloat) : Json :=
  match x.value with
  | .finite q =>
    match shortestDigits |q| with
    | some d => .float (readFloat (x.text.toList.head? == some '-') d.value)
    | none => .float x
  | _ => .float x

/-- `json.loads(canonical_json(value))`: the fields come back in the order of the text, and a
float is read from the digits that it was printed with. -/
def reload (value : Json) : Json := sortKeys (mapFloats rereadFloat value)

/-! ## Records -/

/-- `content_hash`, from the hexadecimal digest of a text. -/
def contentHash (sha256 : String → String) (rawResponse : Json) : String :=
  "sha256:" ++ sha256 (canonicalJson rawResponse)

def verifyContentHash (sha256 : String → String) (rawResponse : Json) (expected : String) : Bool :=
  contentHash sha256 rawResponse == expected

/-- The fields of a record that the hash is about. -/
structure StoredResponse where
  rawResponse : Json
  contentHash : String

/-- `_persist`, as far as the raw response goes; `none` where `canonical_json` raises. -/
def persistResponse (sha256 : String → String) (rawResponse : Json) : Option StoredResponse :=
  if intsFit (stripNul rawResponse) then
    let raw := reload (stripNul rawResponse)
    some { rawResponse := raw, contentHash := contentHash sha256 raw }
  else none

/-! ## The store -/

/-- A number that was kept as an exact decimal and printed without an exponent, as it is read
back: without a fraction it is an int, and zero has no sign. -/
def storedFloat (x : PyFloat) : Json :=
  match x.value with
  | .finite q =>
    match shortestDigits |q| with
    | some d =>
      if d.point ≤ 16 ∨ d.exponent < 0 then .float (readFloat (decide (q < 0)) d.value)
      else .int ((if q < 0 then -1 else 1) * (d.digits * 10 ^ d.exponent.toNat : Nat))
    | none => .float x
  | _ => .float x

/-- What JSONB makes of the numbers of a value. -/
def storedNumbers (value : Json) : Json := mapFloats storedFloat value

end IncidentTriage.Evidence

import IncidentTriage.Python.Json

/-! # What the columns hold

A text column holds every text without U+0000, and a JSONB column every value whose texts
are such and whose numbers are finite; what is refused raises, and the transaction is lost.
-/

namespace IncidentTriage.Incident

open IncidentTriage.Python

def storableText (text : String) : Bool := text.toList.all (fun c => c.toNat != 0)

mutual

def storable : Json → Bool
  | .float x =>
    match x.value with
    | .finite _ => true
    | _ => false
  | .str text => storableText text
  | .list items => storableItems items
  | .object fields => storableFields fields
  | _ => true

def storableItems : List Json → Bool
  | [] => true
  | item :: items => storable item && storableItems items

def storableFields : List (String × Json) → Bool
  | [] => true
  | (key, value) :: fields => storableText key && storable value && storableFields fields

end

end IncidentTriage.Incident

import IncidentTriage.Domain.Correlation

/-! # Idempotency keys of inbound alerts

A notification that carries an external id is known by it; any other by what it says
and by the time at which it arrives, to within the debounce bucket.
-/

namespace IncidentTriage.Domain

open IncidentTriage.Python

def defaultDebounceSeconds : Int := 60

/-- `if external_id`: a missing id and an empty one are no id. -/
def givenId (externalId : Option String) : Option String :=
  externalId.filter (fun id => id ≠ "")

/-- `none` is the `ZeroDivisionError` of an empty debounce bucket. -/
def deriveAlertIdempotencyKey (sha256 : String → String) (source : AlertSource)
    (externalId : Option String) (normalizedPayload : Dict) (status : AlertStatus)
    (debounceSeconds : Int) (now : Time) : Option String :=
  match givenId externalId with
  | some externalId =>
    let key := source.value ++ ":external:" ++ externalId
    some (if status = .resolved then key ++ ":resolved" else key)
  | none =>
    if debounceSeconds = 0 then none
    else
      let bucket := now.fdiv (debounceSeconds * 1000000)
      let digest := sha256 (Json.object normalizedPayload).dumps
      some (source.value ++ ":content:" ++ digest ++ ":" ++ toString bucket)

end IncidentTriage.Domain

import IncidentTriage.Library.Redactions
import IncidentTriage.Python.Json
import IncidentTriage.Python.Text

/-! # Scrubbing a recording

Known secret values, and what looks like a secret, become `[REDACTED]` in every string value of
the document.  `isWord` is what `\w` matches.
-/

namespace IncidentTriage.Evaluation

open IncidentTriage.Python IncidentTriage.Redaction

/-- `REDACTED`. -/
def redacted : List Char := "[REDACTED]".toList

/-! ## The shapes of secrets -/

/-- The text behind a fixed one. -/
def behind (fixed : String) (text : List Char) : Option (List Char) :=
  if fixed.toList <+: text then some (text.drop fixed.length) else none

/-- The text behind one of several: `(?:a|b)`. -/
def behindAny (choices : List String) (text : List Char) : Option (List Char) :=
  choices.findSome? fun fixed => behind fixed text

/-- The text behind a fixed one, if that is there: `(?:a)?`. -/
def behindOptional (fixed : String) (text : List Char) : List Char :=
  (behind fixed text).getD text

/-- The text behind a head and at least `least` characters of a class. -/
def behindToken (head : List Char → Option (List Char)) (accepts : Char → Bool) (least : Nat)
    (text : List Char) : Option (List Char) :=
  match head text with
  | some rest =>
    if least ≤ (rest.takeWhile accepts).length then some (rest.dropWhile accepts) else none
  | none => none

/-- The matcher that finds what `after` leaves out. -/
def matcherOf (after : List Char → Option (List Char)) : Matcher Char :=
  fun _ text => (after text).map fun rest => text.length - rest.length

/-- `[A-Za-z0-9_\-]`. -/
def isKeyChar (c : Char) : Bool := c.isAlphanum || c == '_' || c == '-'

/-- `[A-Za-z0-9._\-]`, whatever the case: four more letters have one of these as their other
case. -/
def isBearerChar (c : Char) : Bool :=
  c.isAlphanum || c == '.' || c == '_' || c == '-' || [0x130, 0x131, 0x17f, 0x212a].contains c.toNat

/-- `bearer\s+`, whatever the case. -/
def behindBearer (text : List Char) : Option (List Char) :=
  if (text.take 6).map Char.toLower = "bearer".toList then
    match text.drop 6 with
    | c :: rest => if isSpace c then some (rest.dropWhile isSpace) else none
    | [] => none
  else none

/-- `sk-ant-[A-Za-z0-9_\-]{8,}`. -/
def anthropicKey : Matcher Char := matcherOf (behindToken (behind "sk-ant-") isKeyChar 8)

/-- `(?:sk|pk|rk|gsk|xai)-`. -/
def vendors : List String := ["sk-", "pk-", "rk-", "gsk-", "xai-"]

/-- `\b(?:sk|pk|rk|gsk|xai)-[A-Za-z0-9_\-]{16,}`. -/
def vendorKey (isWord : Char → Bool) : Matcher Char := fun before text =>
  if before.any isWord then none
  else matcherOf (behindToken (behindAny vendors) isKeyChar 16) before text

/-- `(?i)bearer\s+[A-Za-z0-9._\-]{12,}`. -/
def bearerToken : Matcher Char := matcherOf (behindToken behindBearer isBearerChar 12)

/-- `(?:\+\w+)?`. -/
def behindDriver (isWord : Char → Bool) : List Char → List Char
  | '+' :: rest => if rest.takeWhile isWord = [] then '+' :: rest else rest.dropWhile isWord
  | text => text

/-- `postgres(?:ql)?(?:\+\w+)?://`. -/
def behindScheme (isWord : Char → Bool) (text : List Char) : Option (List Char) :=
  match behind "postgres" text with
  | some rest => behind "://" (behindDriver isWord (behindOptional "ql" rest))
  | none => none

/-- `[^:@/\s]`. -/
def isUserChar (c : Char) : Bool := !(c == ':' || c == '@' || c == '/' || isSpace c)

/-- `[^@/\s]`. -/
def isPasswordChar (c : Char) : Bool := !(c == '@' || c == '/' || isSpace c)

/-- `[^:@/\s]+:[^@/\s]+@`. -/
def behindCredentials (text : List Char) : Option (List Char) :=
  match text.takeWhile isUserChar, text.dropWhile isUserChar with
  | _ :: _, ':' :: rest =>
    match rest.takeWhile isPasswordChar, rest.dropWhile isPasswordChar with
    | _ :: _, '@' :: rest => some rest
    | _, _ => none
  | _, _ => none

/-- `postgres(?:ql)?(?:\+\w+)?://[^:@/\s]+:[^@/\s]+@`. -/
def databaseUrl (isWord : Char → Bool) : Matcher Char :=
  matcherOf fun text => (behindScheme isWord text).bind behindCredentials

/-- `_SECRET_SHAPES`. -/
def secretShapes (isWord : Char → Bool) : List (Matcher Char) :=
  [anthropicKey, vendorKey isWord, bearerToken, databaseUrl isWord]

/-! ## Scrubbing -/

/-- What is looked for, in this order: the known secrets, and the shapes. -/
def matchers (isWord : Char → Bool) (secrets : List String) : List (Matcher Char) :=
  secrets.map (fun secret => literal secret.toList) ++ secretShapes isWord

/-- A string, and how many secrets were replaced in it. -/
def scrubText (isWord : Char → Bool) (secrets : List String) (value : String) : String × Nat :=
  let (out, n) := (matchers isWord secrets).foldl
    (fun (out, n) m => (redact m redacted out, n + count m out)) (value.toList, 0)
  (String.ofList out, n)

mutual

/-- `_scrub`, with what it adds to the counter. -/
def scrub (text : String → String × Nat) : Json → Json × Nat
  | .str value => (.str (text value).1, (text value).2)
  | .list items => (.list (scrubItems text items).1, (scrubItems text items).2)
  | .object fields => (.object (scrubFields text fields).1, (scrubFields text fields).2)
  | value => (value, 0)

def scrubItems (text : String → String × Nat) : List Json → List Json × Nat
  | [] => ([], 0)
  | value :: rest =>
    ((scrub text value).1 :: (scrubItems text rest).1,
      (scrub text value).2 + (scrubItems text rest).2)

def scrubFields (text : String → String × Nat) : Dict → Dict × Nat
  | [] => ([], 0)
  | (key, value) :: rest =>
    ((key, (scrub text value).1) :: (scrubFields text rest).1,
      (scrub text value).2 + (scrubFields text rest).2)

end

/-! ## The document -/

def isString : Json → Bool
  | .str _ => true
  | _ => false

def isInteger : Json → Bool
  | .int _ => true
  | _ => false

def isObject : Json → Bool
  | .object _ => true
  | _ => false

/-- `dict[str, str]`. -/
def isStringDict : Json → Bool
  | .object fields => fields.all fun field => isString field.2
  | _ => false

/-- `list[dict[str, Any]]`. -/
def isObjectList : Json → Bool
  | .list items => items.all isObject
  | _ => false

/-- `... | None`. -/
def orNull (check : Json → Bool) : Json → Bool
  | .null => true
  | value => check value

def schemaVersion : String := "recording-v1"

/-- `Literal["recording-v1"]`. -/
def isSchemaVersion : Json → Bool
  | .str value => value == schemaVersion
  | _ => false

/-- The fields of `InvestigationRecording`, and what each holds. -/
def recordingFields : List (String × (Json → Bool)) :=
  [("schema_version", isSchemaVersion),
   ("recording_id", isString),
   ("recorded_at", isString),
   ("mode", isStringDict),
   ("scenario_id", orNull isString),
   ("run_id", orNull isString),
   ("investigation", isObject),
   ("model", isObject),
   ("prompt", isObject),
   ("context", isObject),
   ("incident", isObject),
   ("incident_transitions", isObjectList),
   ("steps", isObjectList),
   ("model_turns", isObjectList),
   ("tool_calls", isObjectList),
   ("hypotheses", isObjectList),
   ("hypothesis_transitions", isObjectList),
   ("rejected_hypothesis_updates", isObjectList),
   ("conclusion_rejections", isObjectList),
   ("evidence", isObjectList),
   ("rca", orNull isObject),
   ("outcome", isObject),
   ("totals", isObject),
   ("lifecycle", orNull isObject),
   ("redactions", isInteger)]

/-- What `model_validate` accepts, field by field. -/
def validFields : List (String × (Json → Bool)) → Dict → Bool
  | [], [] => true
  | (name, check) :: checks, (key, value) :: data =>
    key == name && check value && validFields checks data
  | _, _ => false

/-- A recording, as `model_dump(mode="json")` gives it. -/
structure RecordingDocument where
  data : Dict
  valid : validFields recordingFields data = true

/-- `model_validate`. -/
def RecordingDocument.validate (data : Dict) : Option RecordingDocument :=
  if valid : validFields recordingFields data = true then some ⟨data, valid⟩ else none

/-- `recording.redactions`. -/
def RecordingDocument.redactions (doc : RecordingDocument) : Int :=
  match doc.data.get? "redactions" with
  | some (.int n) => n
  | _ => 0

/-- `scrub_secrets`, given the known secret values; `none` when the result is no recording. -/
def scrubSecrets (isWord : Char → Bool) (secrets : List String) (doc : RecordingDocument) :
    Option RecordingDocument :=
  let (data, n) := scrubFields (scrubText isWord secrets) doc.data
  RecordingDocument.validate (dictSet data "redactions" (.int (doc.redactions + n)))

end IncidentTriage.Evaluation

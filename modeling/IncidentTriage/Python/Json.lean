import Mathlib.Data.Rat.Floor
import Mathlib.Data.List.Sort

/-! # Python values

The loosely typed values the services pass around (`dict[str, Any]`, JSON
columns): what `get`, truth testing, `==`, `str`, `repr` and `json.dumps` do on
them.  A float is its exact value together with the text Python prints for it,
so that no arithmetic is lost and no printing algorithm has to be modelled.
-/

namespace IncidentTriage.Python

/-- The value of a Python float. -/
inductive FloatValue where
  | finite (value : ℚ)
  | posInf
  | negInf
  | nan
  deriving DecidableEq, Repr

/-- `<=` on floats: every comparison with `nan` is false. -/
def FloatValue.le : FloatValue → FloatValue → Bool
  | .nan, _ | _, .nan => false
  | .negInf, _ | _, .posInf => true
  | .posInf, _ | _, .negInf => false
  | .finite a, .finite b => decide (a ≤ b)

/-- `==` on floats: `nan` differs from itself. -/
def FloatValue.eq : FloatValue → FloatValue → Bool
  | .nan, _ | _, .nan => false
  | a, b => decide (a = b)

/-- A float and the text `repr` gives it. -/
structure PyFloat where
  value : FloatValue
  text : String
  deriving DecidableEq, Repr

inductive Json where
  | null
  | bool (value : Bool)
  | int (value : Int)
  | float (value : PyFloat)
  | str (value : String)
  | list (items : List Json)
  | object (fields : List (String × Json))
  deriving Repr, BEq, Inhabited

/-- `dict[str, Any]`: fields in insertion order. -/
abbrev Dict := List (String × Json)

/-- `fields.get(key)`, with `none` where Python answers `None` for a missing key. -/
def Dict.get? (fields : Dict) (key : String) : Option Json :=
  List.lookup key fields

/-- `entries[key] = value`: an existing key keeps its place. -/
def dictSet {α : Type*} (entries : List (String × α)) (key : String) (value : α) :
    List (String × α) :=
  if entries.any (fun e => e.1 == key) then
    entries.map (fun e => if e.1 == key then (key, value) else e)
  else entries ++ [(key, value)]

/-- After the assignment the key reads the value, and every other key what it did. -/
theorem lookup_dictSet {α : Type*} (entries : List (String × α)) (key k : String) (value : α) :
    List.lookup k (dictSet entries key value) =
      if k = key then some value else List.lookup k entries := by
  have replaced : List.lookup k (entries.map (fun e => if e.1 == key then (key, value) else e)) =
      if k = key then (if entries.any (fun e => e.1 == key) then some value else none)
      else List.lookup k entries := by
    induction entries with
    | nil => simp
    | cons e entries ih =>
      rw [List.map_cons, List.lookup_cons, ih, List.lookup_cons, List.any_cons]
      by_cases first : e.1 = key
      · by_cases here : k = key
        · simp [first, here]
        · simp [first, here, beq_eq_false_iff_ne.mpr here]
      · have other : (e.1 == key) = false := beq_eq_false_iff_ne.mpr first
        by_cases here : k = key
        · have unequal : (key == e.1) = false := beq_eq_false_iff_ne.mpr (Ne.symm first)
          simp only [here, other, unequal, if_true, Bool.false_or, Bool.false_eq_true, if_false]
        · simp only [here, other, if_false, Bool.false_eq_true]
  have appended : List.lookup k (entries ++ [(key, value)]) =
      (List.lookup k entries).or (if k = key then some value else none) := by
    rw [List.lookup_append, List.lookup_cons, List.lookup_nil]
    by_cases here : k = key
    · simp [here]
    · simp [here, beq_eq_false_iff_ne.mpr here]
  have absent : entries.any (fun e => e.1 == key) = false → List.lookup key entries = none := by
    intro unlisted
    simp only [List.any_eq_false, beq_iff_eq] at unlisted
    exact List.lookup_eq_none_iff.mpr fun e member => by simpa using Ne.symm (unlisted e member)
  unfold dictSet
  split_ifs with listed here here
  · rw [replaced, if_pos here, if_pos listed]
  · rw [replaced, if_neg here]
  · rw [appended, here, absent (Bool.eq_false_iff.mpr listed), if_pos rfl]
    rfl
  · rw [appended, if_neg here, Option.or_none]

namespace Json

/-- `bool(value)`. -/
def truthy : Json → Bool
  | .null => false
  | .bool b => b
  | .int i => i != 0
  | .float x => !(x.value.eq (.finite 0))
  | .str s => !s.isEmpty
  | .list items => !items.isEmpty
  | .object fields => !fields.isEmpty

/-- `(value or {}).get(key)` for a value that is an object or nothing. -/
def getOr (value : Option Json) (key : String) : Option Json :=
  match value with
  | some (.object fields) => Dict.get? fields key
  | _ => none

/-- `value or {}`, read as an object. -/
def orEmpty : Option Json → Dict
  | some (.object fields) => fields
  | _ => []

/-- What Python compares numbers by: booleans and integers are numbers too. -/
def number? : Json → Option FloatValue
  | .bool b => some (.finite (if b then 1 else 0))
  | .int i => some (.finite i)
  | .float x => some x.value
  | _ => none

mutual

/-- `a == b`. -/
def eq : Json → Json → Bool
  | .null, .null => true
  | .str a, .str b => a == b
  | .list a, .list b => eqItems a b
  | .object a, .object b => a.length == b.length && eqFields a b
  | a, b =>
    match number? a, number? b with
    | some x, some y => x.eq y
    | _, _ => false

def eqItems : List Json → List Json → Bool
  | [], [] => true
  | a :: as, b :: bs => eq a b && eqItems as bs
  | _, _ => false

/-- Every field of the left object has an equal value on the right. -/
def eqFields : List (String × Json) → List (String × Json) → Bool
  | [], _ => true
  | (key, a) :: rest, right =>
    (match List.lookup key right with
      | some b => eq a b
      | none => false) && eqFields rest right

end

end Json

namespace Json

/-- Neither a list nor an object. -/
def isScalar : Json → Bool
  | .list _ | .object _ => false
  | _ => true

end Json

/-- Induction on what a value is made of. -/
theorem Json.induction {motive : Json → Prop}
    (scalar : ∀ v : Json, v.isScalar = true → motive v)
    (list : ∀ items : List Json, (∀ x ∈ items, motive x) → motive (.list items))
    (object : ∀ fields : List (String × Json), (∀ f ∈ fields, motive f.2) → motive (.object fields))
    (v : Json) : motive v := by
  match v with
  | .list items => exact list items fun x _ => Json.induction scalar list object x
  | .object fields => exact object fields fun f _ => Json.induction scalar list object f.2
  | .null | .bool _ | .int _ | .float _ | .str _ => exact scalar _ rfl
termination_by sizeOf v
decreasing_by
  · have smaller := List.sizeOf_lt_of_mem ‹_›
    simp only [Json.list.sizeOf_spec]
    omega
  · have smaller := List.sizeOf_lt_of_mem ‹_›
    have part : sizeOf f.2 < sizeOf f := by
      cases f
      simp only [Prod.mk.sizeOf_spec]
      omega
    simp only [Json.object.sizeOf_spec]
    omega

/-- A float that equals something is not `nan`. -/
theorem FloatValue.eq_self {x y : FloatValue} (same : x.eq y = true) : x.eq x = true := by
  cases x with
  | nan => cases y <;> cases same
  | finite _ | posInf | negInf => simp [FloatValue.eq]

/-- What equals a scalar equals itself. -/
theorem Json.eq_self {a b : Json} (scalar : b.isScalar = true) (same : a.eq b = true) :
    a.eq a = true := by
  cases b with
  | list _ => cases scalar
  | object _ => cases scalar
  | null =>
    cases a with
    | null => rfl
    | bool _ | int _ | float _ | str _ | list _ | object _ => cases same
  | str _ =>
    cases a with
    | str t => exact beq_self_eq_true t
    | null | bool _ | int _ | float _ | list _ | object _ => cases same
  | bool _ | int _ | float _ =>
    cases a with
    | bool w => simp [Json.eq, Json.number?, FloatValue.eq]
    | int w => simp [Json.eq, Json.number?, FloatValue.eq]
    | float w => exact FloatValue.eq_self same
    | null | str _ | list _ | object _ => cases same

/-! ## Text -/

def hexDigit (n : Nat) : Char :=
  if n < 10 then Char.ofNat (48 + n) else Char.ofNat (87 + n)

def hexDigits : Nat → Nat → List Char
  | 0, _ => []
  | width + 1, n => hexDigits width (n / 16) ++ [hexDigit (n % 16)]

/-- `repr` prints a character as it is; exact below U+0100, and taken to be so
for every character above. -/
def printable (c : Char) : Bool :=
  (0x20 ≤ c.toNat && c.toNat < 0x7f) || (0xa1 ≤ c.toNat && c.toNat != 0xad)

def reprChar (quote c : Char) : List Char :=
  if c == quote || c == '\\' then ['\\', c]
  else if c == '\n' then ['\\', 'n']
  else if c == '\r' then ['\\', 'r']
  else if c == '\t' then ['\\', 't']
  else if printable c then [c]
  else ['\\', 'x'] ++ hexDigits 2 c.toNat

/-- `repr(s)`: single quotes unless the text holds one and no double quote. -/
def quoteRepr (s : String) : String :=
  let chars := s.toList
  let quote := if chars.contains '\'' && !chars.contains '"' then '"' else '\''
  String.ofList ([quote] ++ chars.flatMap (reprChar quote) ++ [quote])

namespace Json

mutual

/-- `repr(value)`. -/
def repr : Json → String
  | .null => "None"
  | .bool true => "True"
  | .bool false => "False"
  | .int i => toString i
  | .float x => x.text
  | .str s => quoteRepr s
  | .list items => "[" ++ reprItems items ++ "]"
  | .object fields => "\x7b" ++ reprFields fields ++ "\x7d"

def reprItems : List Json → String
  | [] => ""
  | [item] => repr item
  | item :: items => repr item ++ ", " ++ reprItems items

def reprFields : List (String × Json) → String
  | [] => ""
  | [(key, value)] => quoteRepr key ++ ": " ++ repr value
  | (key, value) :: fields => quoteRepr key ++ ": " ++ repr value ++ ", " ++ reprFields fields

end

/-- `str(value)`. -/
def text : Json → String
  | .str s => s
  | value => value.repr

end Json

/-- `repr` and `str` of a value that may be `None`. -/
def reprOr (value : Option Json) : String := (value.getD .null).repr

def textOr (value : Option Json) : String := (value.getD .null).text

/-! ## `json.dumps` with sorted keys and compact separators -/

def dumpsChar (c : Char) : List Char :=
  if c == '"' || c == '\\' then ['\\', c]
  else if c == '\n' then ['\\', 'n']
  else if c == '\r' then ['\\', 'r']
  else if c == '\t' then ['\\', 't']
  else if c.toNat == 8 then ['\\', 'b']
  else if c.toNat == 12 then ['\\', 'f']
  else if 0x20 ≤ c.toNat && c.toNat < 0x7f then [c]
  else if c.toNat < 0x10000 then ['\\', 'u'] ++ hexDigits 4 c.toNat
  else
    let offset := c.toNat - 0x10000
    ['\\', 'u'] ++ hexDigits 4 (0xd800 + offset / 0x400) ++
      ['\\', 'u'] ++ hexDigits 4 (0xdc00 + offset % 0x400)

def dumpsStr (s : String) : String :=
  String.ofList (['"'] ++ s.toList.flatMap dumpsChar ++ ['"'])

namespace Json

def dumpsFloat (x : PyFloat) : String :=
  match x.value with
  | .finite _ => x.text
  | .posInf => "Infinity"
  | .negInf => "-Infinity"
  | .nan => "NaN"

mutual

/-- Each object becomes the list of its keys and printed values. -/
def dumps : Json → String
  | .null => "null"
  | .bool true => "true"
  | .bool false => "false"
  | .int i => toString i
  | .float x => dumpsFloat x
  | .str s => dumpsStr s
  | .list items => "[" ++ ",".intercalate (dumpsItems items) ++ "]"
  | .object fields =>
    let sorted := (dumpsFields fields).insertionSort (fun a b => decide (a.1 ≤ b.1))
    "\x7b" ++ ",".intercalate (sorted.map (fun f => dumpsStr f.1 ++ ":" ++ f.2)) ++ "\x7d"

def dumpsItems : List Json → List String
  | [] => []
  | item :: items => dumps item :: dumpsItems items

def dumpsFields : List (String × Json) → List (String × String)
  | [] => []
  | (key, value) :: fields => (key, dumps value) :: dumpsFields fields

end

end Json

/-! ## `json.dumps` with compact separators -/

/-- How an object is printed: with sorted keys, and with the characters above ASCII
escaped. -/
structure DumpStyle where
  sortKeys : Bool := false
  ensureAscii : Bool := true

def DumpStyle.char (style : DumpStyle) (c : Char) : List Char :=
  if 0x7e < c.toNat && !style.ensureAscii then [c] else dumpsChar c

def DumpStyle.str (style : DumpStyle) (s : String) : String :=
  String.ofList (['"'] ++ s.toList.flatMap style.char ++ ['"'])

namespace Json

mutual

def dumpsWith (style : DumpStyle) : Json → String
  | .null => "null"
  | .bool true => "true"
  | .bool false => "false"
  | .int i => toString i
  | .float x => dumpsFloat x
  | .str s => style.str s
  | .list items => "[" ++ ",".intercalate (dumpsItemsWith style items) ++ "]"
  | .object fields =>
    let printed := dumpsFieldsWith style fields
    let ordered := if style.sortKeys then
        printed.insertionSort (fun a b => decide (a.1 ≤ b.1))
      else printed
    "\x7b" ++ ",".intercalate (ordered.map (fun f => style.str f.1 ++ ":" ++ f.2)) ++ "\x7d"

def dumpsItemsWith (style : DumpStyle) : List Json → List String
  | [] => []
  | item :: items => dumpsWith style item :: dumpsItemsWith style items

def dumpsFieldsWith (style : DumpStyle) : List (String × Json) → List (String × String)
  | [] => []
  | (key, value) :: fields => (key, dumpsWith style value) :: dumpsFieldsWith style fields

end

end Json

/-- `canonical_json`: sorted keys, and text as it is. -/
def canonicalJson (value : Json) : String :=
  value.dumpsWith { sortKeys := true, ensureAscii := false }

/-! ## Identifiers, instants and durations -/

/-- A uuid.  Rows made by the services carry the position of the row in its
table: what `uuid4` promises is that the identifier is new. -/
abbrev Uuid := Nat

/-- `str(uuid)`: thirty-two hexadecimal digits in groups of 8, 4, 4, 4, 12. -/
def uuidStr (id : Uuid) : String :=
  let digits := hexDigits 32 id
  let group := fun start length => String.ofList ((digits.drop start).take length)
  "-".intercalate [group 0 8, group 8 4, group 12 4, group 16 4, group 20 12]

/-- Microseconds since the epoch. -/
abbrev Time := Int

/-- Round to the nearest integer, ties to even. -/
def roundHalfEven (q : ℚ) : Int :=
  let low := ⌊q⌋
  let rest := q - low
  if rest < 1 / 2 then low
  else if 1 / 2 < rest then low + 1
  else if low % 2 = 0 then low else low + 1

/-- `timedelta(seconds=q)`. -/
def seconds (q : ℚ) : Int := roundHalfEven (q * 1000000)

theorem floor_le_roundHalfEven (q : ℚ) : ⌊q⌋ ≤ roundHalfEven q := by
  simp only [roundHalfEven]
  split_ifs <;> omega

theorem seconds_nonneg {q : ℚ} (nonneg : 0 ≤ q) : 0 ≤ seconds q := by
  have floor : 0 ≤ ⌊q * 1000000⌋ := Int.floor_nonneg.mpr (by positivity)
  exact floor.trans (floor_le_roundHalfEven _)

/-- `sorted` on strings: by code point. -/
def sortedStrings (xs : List String) : List String :=
  xs.insertionSort (fun a b => decide (a ≤ b))

/-- `text[:limit]`. -/
def truncate (text : String) (limit : Nat) : String :=
  String.ofList (text.toList.take limit)

/-- `round(q, 2)`, the value a two-digit numeric column keeps. -/
def roundCents (q : ℚ) : ℚ := roundHalfEven (q * 100) / 100

def twoDigits (n : Int) : String := if n < 10 then "0" ++ toString n else toString n

/-- `str(timedelta)`. -/
def timedeltaStr (duration : Int) : String :=
  let days := duration / 86400000000
  let rest := duration % 86400000000
  let whole := rest / 1000000
  let micros := (rest % 1000000).toNat
  let clock := toString (whole / 3600) ++ ":" ++ twoDigits (whole / 60 % 60) ++ ":" ++
    twoDigits (whole % 60)
  let fraction := if micros = 0 then ""
    else "." ++ ((toString (1000000 + micros)).drop 1).toString
  let leading := if days = 0 then ""
    else toString days ++ (if days.natAbs = 1 then " day, " else " days, ")
  leading ++ clock ++ fraction

end IncidentTriage.Python

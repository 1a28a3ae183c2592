import IncidentTriage.Evidence.Hashing
import Mathlib.Data.List.Forall2

/-! # Stored evidence and its hash

The canonical text of a response is the same after storage, but for its numbers: a float that
was printed with a positive exponent comes back as an int, and the zero with a sign without it.
Each of these takes one mark out of the text, so the two texts are never alike by chance.
-/

namespace IncidentTriage.Verified

open IncidentTriage.Python IncidentTriage.Evidence

/-! ## The property -/

/-- Every float in a value has a property. -/
inductive EachFloat (p : PyFloat → Prop) : Json → Prop
  | float {x : PyFloat} (holds : p x) : EachFloat p (.float x)
  | other {v : Json} (scalar : v.isScalar = true) (other : ∀ x, v ≠ .float x) : EachFloat p v
  | list {items : List Json} (each : ∀ x ∈ items, EachFloat p x) : EachFloat p (.list items)
  | object {fields : List (String × Json)} (each : ∀ f ∈ fields, EachFloat p f.2) :
      EachFloat p (.object fields)

/-- No key of an object stands twice. -/
inductive DistinctKeys : Json → Prop
  | scalar {v : Json} (scalar : v.isScalar = true) : DistinctKeys v
  | list {items : List Json} (each : ∀ x ∈ items, DistinctKeys x) : DistinctKeys (.list items)
  | object {fields : List (String × Json)} (distinct : (fields.map (·.1)).Nodup)
      (each : ∀ f ∈ fields, DistinctKeys f.2) : DistinctKeys (.object fields)

/-- A value as Python has it, without the floats that are no numbers. -/
structure PythonJson (v : Json) : Prop where
  floats : EachFloat (fun x => ∃ negative magnitude, IsFloat x negative magnitude) v
  keys : DistinctKeys v

/-- The same value, with the fields of its objects in another order. -/
inductive Reordered : Json → Json → Prop
  | scalar {v : Json} (scalar : v.isScalar = true) : Reordered v v
  | list {items shown : List Json} (each : List.Forall₂ Reordered items shown) :
      Reordered (.list items) (.list shown)
  | object {fields same shown : List (String × Json)} (distinct : (fields.map (·.1)).Nodup)
      (keys : fields.map (·.1) = same.map (·.1))
      (each : List.Forall₂ Reordered (fields.map (·.2)) (same.map (·.2)))
      (order : same.Perm shown) : Reordered (.object fields) (.object shown)

/-- What JSONB hands back of a value: strings, lists, objects, booleans and null as they were,
in an order of keys of its own, and numbers by their decimals. -/
def ReadBack (raw back : Json) : Prop := Reordered (storedNumbers raw) back

/-- A response is persisted, and its hash is found again in whatever is read back. -/
def HashReverifies (sha256 : String → String) (response : Json) : Prop :=
  ∃ record, persistResponse sha256 response = some record ∧
    ∀ back, ReadBack record.rawResponse back →
      verifyContentHash sha256 back record.contentHash = true

/-! ## The condition -/

/-- A float below ten to the sixteenth, and not the zero with a sign. -/
def FloatKept (x : PyFloat) : Prop :=
  ∃ q, x.value = .finite q ∧ |q| < 10 ^ 16 ∧ (q = 0 → x.text = "0.0")

/-! ## Equations over lists -/

theorem mapFloats_list (f : PyFloat → Json) (items : List Json) :
    mapFloats f (.list items) = .list (items.map (mapFloats f)) := by
  have each : mapFloatItems f items = items.map (mapFloats f) := by
    induction items with
    | nil => rfl
    | cons v items ih => rw [mapFloatItems, ih, List.map_cons]
  rw [mapFloats, each]

theorem mapFloats_object (f : PyFloat → Json) (fields : List (String × Json)) :
    mapFloats f (.object fields) = .object (fields.map (fun e => (e.1, mapFloats f e.2))) := by
  have each : mapFloatFields f fields = fields.map (fun e => (e.1, mapFloats f e.2)) := by
    induction fields with
    | nil => rfl
    | cons e fields ih => rw [mapFloatFields, ih, List.map_cons]
  rw [mapFloats, each]

theorem sortKeys_list (items : List Json) :
    sortKeys (.list items) = .list (items.map sortKeys) := by
  have each : sortKeysItems items = items.map sortKeys := by
    induction items with
    | nil => rfl
    | cons v items ih => rw [sortKeysItems, ih, List.map_cons]
  rw [sortKeys, each]

theorem sortKeys_object (fields : List (String × Json)) :
    sortKeys (.object fields) = .object ((fields.map (fun e => (e.1, sortKeys e.2))).insertionSort
      (fun a b => decide (a.1 ≤ b.1))) := by
  have each : sortKeysFields fields = fields.map (fun e => (e.1, sortKeys e.2)) := by
    induction fields with
    | nil => rfl
    | cons e fields ih => rw [sortKeysFields, ih, List.map_cons]
  rw [sortKeys, each]

section
variable {p : PyFloat → Prop} {items : List Json} {fields : List (String × Json)}

theorem eachFloat_float_iff {x : PyFloat} : EachFloat p (.float x) ↔ p x := by
  constructor
  · intro each
    cases each with
    | float holds => exact holds
    | other _ other => exact absurd rfl (other x)
  · exact .float

theorem eachFloat_list_iff : EachFloat p (.list items) ↔ ∀ x ∈ items, EachFloat p x := by
  constructor
  · intro each
    cases each with
    | other scalar _ => cases scalar
    | list each => exact each
  · exact .list

theorem eachFloat_object_iff :
    EachFloat p (.object fields) ↔ ∀ f ∈ fields, EachFloat p f.2 := by
  constructor
  · intro each
    cases each with
    | other scalar _ => cases scalar
    | object each => exact each
  · exact .object

theorem distinctKeys_list_iff : DistinctKeys (.list items) ↔ ∀ x ∈ items, DistinctKeys x := by
  constructor
  · intro keys
    cases keys with
    | scalar scalar => cases scalar
    | list each => exact each
  · exact .list

theorem distinctKeys_object_iff : DistinctKeys (.object fields) ↔
    (fields.map (·.1)).Nodup ∧ ∀ f ∈ fields, DistinctKeys f.2 := by
  constructor
  · intro keys
    cases keys with
    | scalar scalar => cases scalar
    | object distinct each => exact ⟨distinct, each⟩
  · exact fun parts => .object parts.1 parts.2

end

theorem EachFloat.combine {p q r : PyFloat → Prop} {v : Json} (each : EachFloat p v)
    (each' : EachFloat q v) (both : ∀ x, p x → q x → r x) : EachFloat r v := by
  induction v using Json.induction with
  | scalar v scalar =>
    cases each with
    | float holds => exact .float (both _ holds (eachFloat_float_iff.mp each'))
    | other scalar other => exact .other scalar other
    | list _ => cases scalar
    | object _ => cases scalar
  | list items ih =>
    rw [eachFloat_list_iff] at each each' ⊢
    exact fun x member => ih x member (each x member) (each' x member)
  | object fields ih =>
    rw [eachFloat_object_iff] at each each' ⊢
    exact fun f member => ih f member (each f member) (each' f member)

theorem mapFloats_eq_self {f : PyFloat → Json} {v : Json}
    (each : EachFloat (fun x => f x = .float x) v) : mapFloats f v = v := by
  induction v using Json.induction with
  | scalar v scalar =>
    cases each with
    | float holds => exact holds
    | @other v _ other =>
      cases v with
      | float x => exact absurd rfl (other x)
      | list _ => cases scalar
      | object _ => cases scalar
      | _ => rfl
    | list _ => cases scalar
    | object _ => cases scalar
  | list items ih =>
    rw [eachFloat_list_iff] at each
    rw [mapFloats_list, List.map_congr_left fun x member => ih x member (each x member),
      List.map_id']
  | object fields ih =>
    rw [eachFloat_object_iff] at each
    have same : fields.map (fun e => (e.1, mapFloats f e.2)) = fields := by
      refine (List.map_congr_left fun e member => ?_).trans (List.map_id' fields)
      rw [ih e member (each e member)]
    rw [mapFloats_object, same]

def canonicalStyle : DumpStyle := { sortKeys := true, ensureAscii := false }

theorem canonicalJson_list (items : List Json) :
    canonicalJson (.list items) = "[" ++ ",".intercalate (items.map canonicalJson) ++ "]" := by
  have each : Json.dumpsItemsWith canonicalStyle items = items.map canonicalJson := by
    induction items with
    | nil => rfl
    | cons v items ih =>
      rw [Json.dumpsItemsWith, ih, List.map_cons]
      rfl
  rw [canonicalJson, Json.dumpsWith, ← canonicalStyle, each]

/-- The keys of an object and its printed values, in the order of the keys. -/
def printedFields (fields : List (String × Json)) : List (String × String) :=
  (fields.map (fun e => (e.1, canonicalJson e.2))).insertionSort (fun a b => decide (a.1 ≤ b.1))

theorem canonicalJson_object (fields : List (String × Json)) :
    canonicalJson (.object fields) = "\x7b" ++ ",".intercalate ((printedFields fields).map
      (fun e => canonicalStyle.str e.1 ++ ":" ++ e.2)) ++ "\x7d" := by
  have each : Json.dumpsFieldsWith canonicalStyle fields =
      fields.map (fun e => (e.1, canonicalJson e.2)) := by
    induction fields with
    | nil => rfl
    | cons e fields ih =>
      rw [Json.dumpsFieldsWith, ih, List.map_cons]
      rfl
  rw [canonicalJson, Json.dumpsWith, ← canonicalStyle, each]
  rfl

/-! ## The order of keys -/

/-- Sorting by distinct keys forgets the order before it. -/
theorem insertionSort_eq_of_perm {α : Type*} {l l' : List (String × α)} (perm : l.Perm l')
    (distinct : (l.map (·.1)).Nodup) :
    l.insertionSort (fun a b => decide (a.1 ≤ b.1)) =
      l'.insertionSort (fun a b => decide (a.1 ≤ b.1)) := by
  have total : Std.Total (fun a b : String × α => decide (a.1 ≤ b.1) = true) := by
    refine ⟨fun a b => ?_⟩
    simp only [decide_eq_true_eq]
    exact String.le_total a.1 b.1
  have trans : IsTrans (String × α) (fun a b => decide (a.1 ≤ b.1) = true) := by
    refine ⟨fun a b c => ?_⟩
    simp only [decide_eq_true_eq]
    exact String.le_trans
  have before := List.perm_insertionSort (fun a b : String × α => decide (a.1 ≤ b.1)) l
  have after := List.perm_insertionSort (fun a b : String × α => decide (a.1 ≤ b.1)) l'
  refine List.Perm.eq_of_pairwise ?_ (List.pairwise_insertionSort _ l)
    (List.pairwise_insertionSort _ l') (before.trans (perm.trans after.symm))
  intro a b first second below above
  simp only [decide_eq_true_eq] at below above
  exact List.inj_on_of_nodup_map distinct (before.mem_iff.mp first)
    (perm.mem_iff.mpr (after.mem_iff.mp second)) (String.le_antisymm below above)

/-- Values that are reordered one by one are printed alike. -/
theorem map_canonicalJson_eq {items shown : List Json}
    (each : ∀ v ∈ items, ∀ w, Reordered v w → canonicalJson w = canonicalJson v)
    (same : List.Forall₂ Reordered items shown) :
    shown.map canonicalJson = items.map canonicalJson := by
  induction same with
  | nil => rfl
  | cons first _ ih =>
    rw [List.forall_mem_cons] at each
    rw [List.map_cons, List.map_cons, each.1 _ first, ih each.2]

/-- Fields with the same keys and values printed alike are printed alike. -/
theorem map_fields_eq {α β γ : Type*} {fields : List (α × β)} {same : List (α × β)}
    (keys : fields.map (·.1) = same.map (·.1)) {f : β → γ}
    (values : (same.map (·.2)).map f = (fields.map (·.2)).map f) :
    same.map (fun e => (e.1, f e.2)) = fields.map (fun e => (e.1, f e.2)) := by
  induction fields generalizing same with
  | nil =>
    rw [List.map_nil, eq_comm, List.map_eq_nil_iff] at keys
    rw [keys]
  | cons e fields ih =>
    cases same with
    | nil => cases keys
    | cons e' same =>
      simp only [List.map_cons, List.cons.injEq] at keys values ⊢
      exact ⟨by rw [keys.1, values.1], ih keys.2 values.2⟩

theorem canonicalJson_reordered {v w : Json} (reordered : Reordered v w) :
    canonicalJson w = canonicalJson v := by
  induction v using Json.induction generalizing w with
  | scalar v scalar =>
    cases reordered with
    | scalar _ => rfl
    | list _ => cases scalar
    | object _ _ _ _ => cases scalar
  | list items each =>
    cases reordered with
    | scalar scalar => cases scalar
    | @list _ shown same =>
      rw [canonicalJson_list, canonicalJson_list,
        map_canonicalJson_eq (fun v member w => each v member) same]
  | object fields each =>
    cases reordered with
    | scalar scalar => cases scalar
    | @object _ same shown distinct keys all order =>
      have values := map_canonicalJson_eq (fun v member w => by
        obtain ⟨f, among, rfl⟩ := List.mem_map.mp member
        exact each f among) all
      have printed : printedFields shown = printedFields fields := by
        rw [printedFields, printedFields, ← map_fields_eq keys values]
        refine (insertionSort_eq_of_perm (order.map _) ?_).symm
        rw [List.map_map]
        exact keys ▸ distinct
      rw [canonicalJson_object, canonicalJson_object, printed]

theorem reordered_refl {v : Json} (keys : DistinctKeys v) : Reordered v v := by
  induction v using Json.induction with
  | scalar v scalar => exact .scalar scalar
  | list items ih =>
    rw [distinctKeys_list_iff] at keys
    exact .list (List.forall₂_same.mpr fun x member => ih x member (keys x member))
  | object fields ih =>
    rw [distinctKeys_object_iff] at keys
    refine .object keys.1 rfl (List.forall₂_same.mpr ?_) (List.Perm.refl fields)
    intro x member
    obtain ⟨f, among, rfl⟩ := List.mem_map.mp member
    exact ih f among (keys.2 f among)

theorem sortKeys_scalar {v : Json} (scalar : v.isScalar = true) : sortKeys v = v := by
  cases v with
  | list _ => cases scalar
  | object _ => cases scalar
  | _ => rfl

theorem reordered_sortKeys {v : Json} (keys : DistinctKeys v) : Reordered v (sortKeys v) := by
  induction v using Json.induction with
  | scalar v scalar =>
    rw [sortKeys_scalar scalar]
    exact .scalar scalar
  | list items ih =>
    rw [distinctKeys_list_iff] at keys
    rw [sortKeys_list]
    refine .list ?_
    rw [List.forall₂_map_right_iff, List.forall₂_same]
    exact fun x member => ih x member (keys x member)
  | object fields ih =>
    rw [distinctKeys_object_iff] at keys
    rw [sortKeys_object]
    refine .object keys.1 ?_ ?_ (List.perm_insertionSort _ _).symm
    · rw [List.map_map]
      rfl
    · rw [List.map_map, List.forall₂_map_left_iff, List.forall₂_map_right_iff, List.forall₂_same]
      exact fun f member => ih f member (keys.2 f member)

theorem distinctKeys_sortKeys {v : Json} (keys : DistinctKeys v) : DistinctKeys (sortKeys v) := by
  induction v using Json.induction with
  | scalar v scalar => rwa [sortKeys_scalar scalar]
  | list items ih =>
    rw [distinctKeys_list_iff] at keys
    rw [sortKeys_list, distinctKeys_list_iff, List.forall_mem_map]
    exact fun x member => ih x member (keys x member)
  | object fields ih =>
    rw [distinctKeys_object_iff] at keys
    rw [sortKeys_object, distinctKeys_object_iff]
    constructor
    · rw [((List.perm_insertionSort _ _).map _).nodup_iff, List.map_map]
      exact keys.1
    · intro e member
      rw [List.mem_insertionSort] at member
      obtain ⟨f, among, rfl⟩ := List.mem_map.mp member
      exact ih f among (keys.2 f among)

theorem distinctKeys_mapFloats {f : PyFloat → Json} (scalars : ∀ x, (f x).isScalar = true)
    {v : Json} (keys : DistinctKeys v) : DistinctKeys (mapFloats f v) := by
  induction v using Json.induction with
  | scalar v scalar =>
    cases v with
    | float x => exact .scalar (scalars x)
    | list _ => cases scalar
    | object _ => cases scalar
    | _ => exact .scalar rfl
  | list items ih =>
    rw [distinctKeys_list_iff] at keys
    rw [mapFloats_list, distinctKeys_list_iff, List.forall_mem_map]
    exact fun x member => ih x member (keys x member)
  | object fields ih =>
    rw [distinctKeys_object_iff] at keys
    rw [mapFloats_object, distinctKeys_object_iff, List.map_map, List.forall_mem_map]
    exact ⟨keys.1, fun e member => ih e member (keys.2 e member)⟩

/-- Replacing floats and sorting keys can change places. -/
theorem mapFloats_sortKeys {f : PyFloat → Json} (scalars : ∀ x, (f x).isScalar = true)
    (v : Json) : mapFloats f (sortKeys v) = sortKeys (mapFloats f v) := by
  induction v using Json.induction with
  | scalar v scalar =>
    cases v with
    | float x => exact (sortKeys_scalar (scalars x)).symm
    | list _ => cases scalar
    | object _ => cases scalar
    | _ => rfl
  | list items ih =>
    rw [sortKeys_list, mapFloats_list, mapFloats_list, sortKeys_list, List.map_map, List.map_map]
    exact congrArg Json.list (List.map_congr_left fun x member => ih x member)
  | object fields ih =>
    rw [sortKeys_object, mapFloats_object, mapFloats_object, sortKeys_object,
      List.map_insertionSort _ (fun a b : String × Json => decide (a.1 ≤ b.1)) _ _
        (fun a _ b _ => Iff.rfl), List.map_map, List.map_map]
    have same : fields.map ((fun e => (e.1, mapFloats f e.2)) ∘ fun e => (e.1, sortKeys e.2)) =
        fields.map ((fun e => (e.1, sortKeys e.2)) ∘ fun e => (e.1, mapFloats f e.2)) := by
      refine List.map_congr_left fun e member => ?_
      exact congrArg (Prod.mk e.1) (ih e member)
    rw [same]

/-! ## Floats -/

section
variable {x : PyFloat} {negative : Bool} {q : ℚ}

/-- A numeral does not begin with a sign. -/
theorem head_layout (d : Digits) : d.layout.head? ≠ some '-' := by
  obtain ⟨c, rest, text⟩ : ∃ c rest, Nat.toDigits 10 d.digits = c :: rest :=
    List.exists_cons_of_ne_nil (by simp)
  have digit : c.isDigit = true := isDigit_of_mem_toDigits c (text ▸ List.mem_cons_self)
  have plain : c ≠ '-' := by
    rintro rfl
    cases digit
  rw [Digits.layout, text]
  split_ifs with fixed behind within
  · simp
  · obtain ⟨k, position⟩ : ∃ k, d.point.toNat = k + 1 := ⟨d.point.toNat - 1, by omega⟩
    simpa [position] using plain
  · simpa using plain
  all_goals simpa using plain

theorem head_reprMagnitude (q : ℚ) : (reprMagnitude q).head? ≠ some '-' := by
  rw [reprMagnitude]
  cases shortestDigits q with
  | none => simp
  | some d => exact head_layout d

theorem readFloat_shortest {d : Digits} (found : shortestDigits q = some d) (sign : Bool) :
    readFloat sign d.value = pyFloat sign q := by
  rw [readFloat, roundDouble_shortestDigits found]

theorem value_eq (float : IsFloat x negative q) :
    x.value = .finite (if negative then -q else q) := by
  rw [float.printed]
  rfl

theorem magnitude_eq (float : IsFloat x negative q) : |if negative then -q else q| = q := by
  cases negative with
  | false => exact abs_of_nonneg float.nonneg
  | true => exact (abs_neg q).trans (abs_of_nonneg float.nonneg)

theorem rereadFloat_eq (float : IsFloat x negative q) : rereadFloat x = .float x := by
  obtain ⟨d, found⟩ := exists_shortestDigits float.nonneg float.double
  have sign : (x.text.toList.head? == some '-') = negative := by
    rw [float.printed, pyFloat, String.toList_ofList]
    cases negative with
    | false => simpa using head_reprMagnitude q
    | true => rfl
  simp only [rereadFloat, value_eq float, magnitude_eq float, found, sign, readFloat_shortest found]
  rw [← float.printed]

theorem storedFloat_scalar (x : PyFloat) : (storedFloat x).isScalar = true := by
  rw [storedFloat]
  split
  · split
    · split_ifs <;> rfl
    · rfl
  · rfl

/-- A float below ten to the sixteenth comes back as a float. -/
theorem storedFloat_small (float : IsFloat x negative q) (small : q < 10 ^ 16) :
    storedFloat x = .float (pyFloat (negative && decide (0 < q)) q) := by
  obtain ⟨d, found⟩ := exists_shortestDigits float.nonneg float.double
  have near : d.point ≤ 16 := by
    have iff := point_gt_iff float.nonneg found
    by_contra far
    exact absurd (iff.mp (by omega)) (not_le.mpr small)
  have sign : decide ((if negative then -q else q) < 0) = (negative && decide (0 < q)) := by
    cases negative with
    | false => simpa using float.nonneg
    | true => simp
  simp only [storedFloat, value_eq float, magnitude_eq float, found, near, true_or, if_true, sign,
    readFloat_shortest found]

/-- A float from there on comes back as an int, of the same sign or without one. -/
theorem storedFloat_large (float : IsFloat x negative q) (large : 10 ^ 16 ≤ q) :
    ∃ i : Int, storedFloat x = .int i ∧ (i < 0 → negative = true) := by
  obtain ⟨d, found⟩ := exists_shortestDigits float.nonneg float.double
  have far := (point_gt_iff float.nonneg found).mpr large
  have whole := exponent_nonneg found far
  have fraction : ¬ (d.point ≤ 16 ∨ d.exponent < 0) := by omega
  have stored : storedFloat x = .int ((if (if negative then -q else q) < 0 then -1 else 1) *
      (d.digits * 10 ^ d.exponent.toNat : Nat)) := by
    simp only [storedFloat, value_eq float, magnitude_eq float, found, fraction, if_false]
  refine ⟨_, stored, ?_⟩
  intro below
  cases negative with
  | true => rfl
  | false =>
    rw [if_neg Bool.false_ne_true, if_neg (not_lt.mpr float.nonneg), one_mul] at below
    exact absurd below (by omega)

end

/-! ## Marks of numbers -/

/-- The two characters that a number can lose. -/
def isNumberMark (c : Char) : Bool := c == 'e' || c == '-'

def marksIn (text : String) : Nat := text.toList.countP isNumberMark

theorem marksIn_append (a b : String) : marksIn (a ++ b) = marksIn a + marksIn b := by
  rw [marksIn, String.toList_append, List.countP_append, marksIn, marksIn]

theorem marksIn_intercalate (texts : List String) :
    marksIn (",".intercalate texts) = (texts.map marksIn).sum := by
  induction texts with
  | nil => rfl
  | cons text texts ih =>
    cases texts with
    | nil => simp
    | cons next texts =>
      have comma : marksIn "," = 0 := by decide
      rw [String.intercalate_cons_cons, marksIn_append, marksIn_append, ih, comma, List.map_cons,
        List.sum_cons]
      rfl

theorem marksIn_list (items : List Json) :
    marksIn (canonicalJson (.list items)) =
      (items.map (fun v => marksIn (canonicalJson v))).sum := by
  have left : marksIn "[" = 0 := by decide
  have right : marksIn "]" = 0 := by decide
  rw [canonicalJson_list, marksIn_append, marksIn_append, marksIn_intercalate, left, right,
    List.map_map]
  simp [Function.comp_def]

theorem marksIn_object (fields : List (String × Json)) :
    marksIn (canonicalJson (.object fields)) = (fields.map (fun e =>
      marksIn (canonicalStyle.str e.1) + marksIn (canonicalJson e.2))).sum := by
  have left : marksIn "\x7b" = 0 := by decide
  have right : marksIn "\x7d" = 0 := by decide
  have colon : marksIn ":" = 0 := by decide
  have each : ∀ e : String × String, marksIn (canonicalStyle.str e.1 ++ ":" ++ e.2) =
      marksIn (canonicalStyle.str e.1) + marksIn e.2 := by
    intro e
    rw [marksIn_append, marksIn_append, colon, add_zero]
  have printed := (List.perm_insertionSort (fun a b : String × String => decide (a.1 ≤ b.1))
    (fields.map (fun e => (e.1, canonicalJson e.2)))).map
      (fun e => marksIn (canonicalStyle.str e.1) + marksIn e.2)
  rw [canonicalJson_object, marksIn_append, marksIn_append, marksIn_intercalate, left, right,
    List.map_map, zero_add, add_zero]
  simp only [Function.comp_def, each]
  rw [printedFields, printed.sum_eq, List.map_map]
  rfl

theorem marksIn_digits {text : List Char} (digits : ∀ c ∈ text, c.isDigit = true) :
    text.countP isNumberMark = 0 := by
  rw [List.countP_eq_zero]
  intro c member mark
  have digit := digits c member
  simp only [isNumberMark, Bool.or_eq_true, beq_iff_eq] at mark
  obtain rfl | rfl := mark
  · cases digit
  · cases digit

theorem marksIn_nat (n : Nat) : marksIn (toString n) = 0 := by
  rw [marksIn, Nat.toString_eq_ofList_toDigits, String.toList_ofList]
  exact marksIn_digits isDigit_of_mem_toDigits

theorem marksIn_int (i : Int) : marksIn (toString i) ≤ if i < 0 then 1 else 0 := by
  cases i with
  | ofNat n => exact (marksIn_nat n).le
  | negSucc n =>
    have text : toString (Int.negSucc n) = "-" ++ toString (n + 1) := rfl
    have sign : marksIn "-" = 1 := by decide
    rw [text, marksIn_append, marksIn_nat, sign, if_pos (Int.negSucc_lt_zero n)]

theorem marksIn_twoDigits (n : Nat) : marksIn (twoDigits n) = 0 := by
  have zero : marksIn "0" = 0 := by decide
  have text : toString (n : Int) = toString n := rfl
  rw [twoDigits]
  split_ifs
  · rw [marksIn_append, zero, text, marksIn_nat]
  · rw [text, marksIn_nat]

/-- What is printed with a positive exponent has its mark. -/
theorem marksIn_layout {d : Digits} (far : 16 < d.point) : d.layout.countP isNumberMark = 1 := by
  have digits : ∀ c ∈ Nat.toDigits 10 d.digits, c.isDigit = true := isDigit_of_mem_toDigits
  have first : ((Nat.toDigits 10 d.digits).take 1).countP isNumberMark = 0 :=
    marksIn_digits fun c member => digits c (List.mem_of_mem_take member)
  have others : (if 1 < d.count then '.' :: (Nat.toDigits 10 d.digits).drop 1 else []).countP
      isNumberMark = 0 := by
    split_ifs
    · rw [List.countP_cons_of_neg (by decide)]
      exact marksIn_digits fun c member => digits c (List.mem_of_mem_drop member)
    · rfl
  have exponent : (twoDigits |d.point - 1|).toList.countP isNumberMark = 0 := by
    have nat : |d.point - 1| = ((d.point - 1).toNat : Int) := by
      rw [abs_of_nonneg (by omega), Int.toNat_of_nonneg (by omega)]
    rw [nat]
    exact marksIn_twoDigits _
  have sign : ['e', '+'].countP isNumberMark = 1 := by decide
  have outer : ¬ (-4 < d.point ∧ d.point ≤ 16) := by omega
  have behind : ¬ d.point ≤ 0 := by omega
  simp only [Digits.layout, outer, behind, if_false, List.countP_append, first, others, sign,
    exponent]

theorem marksIn_pyFloat (negative : Bool) (q : ℚ) :
    marksIn (pyFloat negative q).text = negative.toNat + (reprMagnitude q).countP isNumberMark := by
  have sign : (if negative then ['-'] else []).countP isNumberMark = negative.toNat := by
    cases negative <;> decide
  rw [marksIn, pyFloat, String.toList_ofList, List.countP_append, sign]

theorem canonicalJson_float {x : PyFloat} {negative : Bool} {q : ℚ}
    (float : IsFloat x negative q) : canonicalJson (.float x) = x.text := by
  rw [canonicalJson, Json.dumpsWith, Json.dumpsFloat, value_eq float]

theorem floatKept_iff {x : PyFloat} {negative : Bool} {q : ℚ} (float : IsFloat x negative q) :
    FloatKept x ↔ q < 10 ^ 16 ∧ ¬ (negative = true ∧ q = 0) := by
  have zero_iff : (if negative then -q else q) = 0 ↔ q = 0 := by
    cases negative with
    | false => exact Iff.rfl
    | true => exact neg_eq_zero
  have kept_iff : FloatKept x ↔ q < 10 ^ 16 ∧ (q = 0 → x.text = "0.0") := by
    rw [← zero_iff, ← magnitude_eq float]
    constructor
    · rintro ⟨value, same, kept⟩
      rw [value_eq float] at same
      cases same
      rwa [magnitude_eq float] at kept ⊢
    · intro kept
      refine ⟨_, value_eq float, ?_⟩
      rwa [magnitude_eq float] at kept ⊢
  rw [kept_iff]
  refine and_congr_right fun _ => ?_
  rw [not_and, imp_not_comm]
  refine imp_congr_right fun none => ?_
  rw [float.printed, none]
  cases negative with
  | false => exact iff_of_true (by decide +kernel) Bool.false_ne_true
  | true => exact iff_of_false (by decide +kernel) (not_not_intro rfl)

theorem storedFloat_kept {x : PyFloat} {negative : Bool} {q : ℚ} (float : IsFloat x negative q)
    (kept : FloatKept x) : storedFloat x = .float x := by
  obtain ⟨small, signed⟩ := (floatKept_iff float).mp kept
  have sign : (negative && decide (0 < q)) = negative := by
    cases negative with
    | false => rfl
    | true => simpa using lt_of_le_of_ne float.nonneg fun zero => signed ⟨rfl, zero.symm⟩
  rw [storedFloat_small float small, sign, ← float.printed]

/-- A float that is not kept loses a mark. -/
theorem marksIn_storedFloat_lt {x : PyFloat} {negative : Bool} {q : ℚ}
    (float : IsFloat x negative q) (lost : ¬ FloatKept x) :
    marksIn (canonicalJson (storedFloat x)) < marksIn (canonicalJson (.float x)) := by
  have marked : marksIn x.text = negative.toNat + (reprMagnitude q).countP isNumberMark := by
    rw [← marksIn_pyFloat, ← float.printed]
  rw [canonicalJson_float float, marked]
  obtain small | large := lt_or_ge q (10 ^ 16)
  · -- the zero with a sign
    obtain ⟨rfl, rfl⟩ : negative = true ∧ q = 0 := by
      by_contra other
      exact lost ((floatKept_iff float).mpr ⟨small, other⟩)
    have other : IsFloat (pyFloat false 0) false 0 := ⟨le_refl 0, float.double, rfl⟩
    have unsigned : (true && decide ((0 : ℚ) < 0)) = false := by simp
    rw [storedFloat_small float small, unsigned, canonicalJson_float other, marksIn_pyFloat]
    simp
  · obtain ⟨i, stored, sign⟩ := storedFloat_large float large
    obtain ⟨d, found⟩ := exists_shortestDigits float.nonneg float.double
    have far := (point_gt_iff float.nonneg found).mpr large
    have layout : (reprMagnitude q).countP isNumberMark = 1 := by
      rw [reprMagnitude, found]
      exact marksIn_layout far
    have fewer := marksIn_int i
    have int : canonicalJson (.int i) = toString i := rfl
    rw [stored, int, layout]
    split_ifs at fewer with below
    · rw [sign below]
      exact Nat.lt_succ_of_le fewer
    · omega

/-! ## The text after storage -/

theorem sum_le_and_eq {α : Type*} {f g : α → Nat} {l : List α} (le : ∀ x ∈ l, f x ≤ g x) :
    (l.map f).sum ≤ (l.map g).sum ∧
      ((l.map f).sum = (l.map g).sum → ∀ x ∈ l, f x = g x) := by
  induction l with
  | nil => exact ⟨le_refl 0, fun _ x member => absurd member List.not_mem_nil⟩
  | cons x l ih =>
    rw [List.forall_mem_cons] at le
    obtain ⟨rest, equal⟩ := ih le.2
    simp only [List.map_cons, List.sum_cons, List.forall_mem_cons]
    exact ⟨by omega, fun same => ⟨by omega, equal (by omega)⟩⟩

/-- Storing a value adds no mark to its text, and takes one away unless every float is kept. -/
theorem marksIn_storedNumbers {v : Json}
    (floats : EachFloat (fun x => ∃ negative magnitude, IsFloat x negative magnitude) v) :
    marksIn (canonicalJson (storedNumbers v)) ≤ marksIn (canonicalJson v) ∧
      (marksIn (canonicalJson (storedNumbers v)) = marksIn (canonicalJson v) →
        EachFloat FloatKept v) := by
  induction v using Json.induction with
  | scalar v scalar =>
    cases floats with
    | @float x float =>
      obtain ⟨negative, q, float⟩ := float
      rw [storedNumbers, mapFloats]
      by_cases kept : FloatKept x
      · rw [storedFloat_kept float kept]
        exact ⟨le_refl _, fun _ => .float kept⟩
      · have fewer := marksIn_storedFloat_lt float kept
        exact ⟨fewer.le, fun same => absurd same fewer.ne⟩
    | other _ other =>
      have same : storedNumbers v = v := mapFloats_eq_self (.other scalar other)
      rw [same]
      exact ⟨le_refl _, fun _ => .other scalar other⟩
    | list _ => cases scalar
    | object _ => cases scalar
  | list items ih =>
    rw [eachFloat_list_iff] at floats
    obtain ⟨le, equal⟩ := sum_le_and_eq fun x member => (ih x member (floats x member)).1
    rw [storedNumbers, mapFloats_list, marksIn_list, marksIn_list, List.map_map]
    refine ⟨le, fun same => eachFloat_list_iff.mpr fun x member => ?_⟩
    exact (ih x member (floats x member)).2 (equal same x member)
  | object fields ih =>
    rw [eachFloat_object_iff] at floats
    obtain ⟨le, equal⟩ := sum_le_and_eq fun e member =>
      Nat.add_le_add_left (ih e member (floats e member)).1 (marksIn (canonicalStyle.str e.1))
    rw [storedNumbers, mapFloats_object, marksIn_object, marksIn_object, List.map_map]
    refine ⟨le, fun same => eachFloat_object_iff.mpr fun e member => ?_⟩
    exact (ih e member (floats e member)).2 (Nat.add_left_cancel (equal same e member))

/-- The text after storage is the text before it exactly when every float is kept. -/
theorem canonicalJson_storedNumbers_iff {v : Json}
    (floats : EachFloat (fun x => ∃ negative magnitude, IsFloat x negative magnitude) v) :
    canonicalJson (storedNumbers v) = canonicalJson v ↔ EachFloat FloatKept v := by
  constructor
  · exact fun same => (marksIn_storedNumbers floats).2 (congrArg marksIn same)
  · intro kept
    have same : storedNumbers v = v := by
      refine mapFloats_eq_self (floats.combine kept ?_)
      rintro x ⟨negative, q, float⟩ kept
      exact storedFloat_kept float kept
    rw [same]

/-! ## Responses without NUL -/

theorem map_dictSet_keys {α : Type*} (entries : List (String × α)) (key : String) (value : α) :
    (dictSet entries key value).map (·.1) =
      if key ∈ entries.map (·.1) then entries.map (·.1) else entries.map (·.1) ++ [key] := by
  have listed : entries.any (fun e => e.1 == key) = true ↔ key ∈ entries.map (·.1) := by
    simp
  rw [dictSet]
  by_cases member : key ∈ entries.map (·.1)
  · rw [if_pos (listed.mpr member), if_pos member, List.map_map]
    refine List.map_congr_left fun e _ => ?_
    simp only [Function.comp_apply]
    split_ifs with same
    · exact (beq_iff_eq.mp same).symm
    · rfl
  · rw [if_neg fun found => member (listed.mp found), if_neg member, List.map_append]
    rfl

theorem mem_dictSet {α : Type*} {entries : List (String × α)} {key : String} {value : α}
    {e : String × α} (member : e ∈ dictSet entries key value) : e ∈ entries ∨ e = (key, value) := by
  rw [dictSet] at member
  split_ifs at member
  · obtain ⟨old, among, rfl⟩ := List.mem_map.mp member
    split_ifs
    · exact .inr rfl
    · exact .inl among
  · obtain among | new := List.mem_append.mp member
    · exact .inl among
    · exact .inr (List.mem_singleton.mp new)

theorem stripNul_list (items : List Json) :
    stripNul (.list items) = .list (items.map stripNul) := by
  have each : stripNulItems items = items.map stripNul := by
    induction items with
    | nil => rfl
    | cons v items ih => rw [stripNulItems, ih, List.map_cons]
  rw [stripNul, each]

theorem nodup_stripNulFields {entries : List (String × Json)}
    (distinct : (entries.map (·.1)).Nodup) (fields : List (String × Json)) :
    ((stripNulFields entries fields).map (·.1)).Nodup := by
  induction fields generalizing entries with
  | nil => exact distinct
  | cons e fields ih =>
    rw [stripNulFields]
    refine ih ?_
    rw [map_dictSet_keys]
    split_ifs with member
    · exact distinct
    · rw [List.nodup_append]
      refine ⟨distinct, List.nodup_singleton _, ?_⟩
      intro key among other single
      rw [List.mem_singleton.mp single]
      rintro rfl
      exact member among

theorem mem_stripNulFields {entries fields : List (String × Json)} {e : String × Json}
    (member : e ∈ stripNulFields entries fields) :
    e ∈ entries ∨ ∃ f ∈ fields, e.2 = stripNul f.2 := by
  induction fields generalizing entries with
  | nil => exact .inl member
  | cons f fields ih =>
    obtain among | ⟨g, among, same⟩ := ih member
    · obtain old | rfl := mem_dictSet among
      · exact .inl old
      · exact .inr ⟨f, List.mem_cons_self, rfl⟩
    · exact .inr ⟨g, List.mem_cons_of_mem f among, same⟩

theorem stripNul_scalar {v : Json} (scalar : v.isScalar = true) :
    (stripNul v).isScalar = true ∧ ∀ x, stripNul v = .float x ↔ v = .float x := by
  cases v with
  | list _ => cases scalar
  | object _ => cases scalar
  | str _ => exact ⟨rfl, fun x => by simp [stripNul]⟩
  | _ => exact ⟨rfl, fun x => Iff.rfl⟩

theorem PythonJson.stripNul {v : Json} (python : PythonJson v) : PythonJson (stripNul v) := by
  obtain ⟨floats, keys⟩ := python
  induction v using Json.induction with
  | scalar v scalar =>
    obtain ⟨scalar', same⟩ := stripNul_scalar scalar
    refine ⟨?_, .scalar scalar'⟩
    cases floats with
    | float holds => exact .float holds
    | other _ other => exact .other scalar' fun x float => other x ((same x).mp float)
    | list _ => cases scalar
    | object _ => cases scalar
  | list items ih =>
    rw [eachFloat_list_iff] at floats
    rw [distinctKeys_list_iff] at keys
    rw [stripNul_list]
    constructor
    · rw [eachFloat_list_iff, List.forall_mem_map]
      exact fun x member => (ih x member (floats x member) (keys x member)).floats
    · rw [distinctKeys_list_iff, List.forall_mem_map]
      exact fun x member => (ih x member (floats x member) (keys x member)).keys
  | object fields ih =>
    rw [eachFloat_object_iff] at floats
    rw [distinctKeys_object_iff] at keys
    have each : ∀ e ∈ stripNulFields [] fields, PythonJson e.2 := by
      intro e member
      obtain none | ⟨f, among, same⟩ := mem_stripNulFields member
      · cases none
      · rw [same]
        exact ih f among (floats f among) (keys.2 f among)
    have distinct : (([] : List (String × Json)).map (·.1)).Nodup := List.nodup_nil
    rw [Evidence.stripNul]
    exact ⟨eachFloat_object_iff.mpr fun e member => (each e member).floats,
      .object (nodup_stripNulFields distinct fields) fun e member => (each e member).keys⟩

/-! ## Hashes -/

theorem reload_eq {v : Json} (python : PythonJson v) : reload v = sortKeys v := by
  have same : mapFloats rereadFloat v = v := by
    refine mapFloats_eq_self (python.floats.combine python.floats ?_)
    rintro x ⟨negative, q, float⟩ -
    exact rereadFloat_eq float
  rw [reload, same]

/-- Whatever is read back is printed as the response with its numbers stored. -/
theorem canonicalJson_readBack {v back : Json} (python : PythonJson v)
    (read : ReadBack (reload v) back) :
    canonicalJson back = canonicalJson (storedNumbers v) := by
  have keys := distinctKeys_mapFloats storedFloat_scalar python.keys
  rw [ReadBack, reload_eq python, storedNumbers, mapFloats_sortKeys storedFloat_scalar] at read
  rw [canonicalJson_reordered read, canonicalJson_reordered (reordered_sortKeys keys),
    storedNumbers]

/-- The store may keep the order of the keys. -/
theorem readBack_storedNumbers {v : Json} (python : PythonJson v) :
    ReadBack (reload v) (storedNumbers (reload v)) := by
  refine reordered_refl ?_
  rw [reload_eq python]
  exact distinctKeys_mapFloats storedFloat_scalar (distinctKeys_sortKeys python.keys)

theorem canonicalJson_reload {v : Json} (python : PythonJson v) :
    canonicalJson (reload v) = canonicalJson v := by
  rw [reload_eq python, canonicalJson_reordered (reordered_sortKeys python.keys)]

/-- A response verifies for good exactly when its ints can be printed and its floats are kept.
A digest stands for its text: the two texts of the record have not the same one. -/
theorem hashReverifies_iff {sha256 : String → String} {response : Json}
    (python : PythonJson response)
    (apart : ∀ back, ReadBack (reload (stripNul response)) back →
      sha256 (canonicalJson back) = sha256 (canonicalJson (reload (stripNul response))) →
        canonicalJson back = canonicalJson (reload (stripNul response))) :
    HashReverifies sha256 response ↔
      intsFit (stripNul response) = true ∧ EachFloat FloatKept (stripNul response) := by
  have stripped := python.stripNul
  constructor
  · rintro ⟨record, persisted, verifies⟩
    rw [persistResponse] at persisted
    split_ifs at persisted with fits
    cases persisted
    refine ⟨fits, ?_⟩
    have read := readBack_storedNumbers stripped
    have verified := verifies _ read
    rw [verifyContentHash, beq_iff_eq, contentHash, contentHash, String.append_right_inj]
      at verified
    have same := apart _ read verified
    rw [canonicalJson_readBack stripped read, canonicalJson_reload stripped] at same
    exact (canonicalJson_storedNumbers_iff stripped.floats).mp same
  · rintro ⟨fits, kept⟩
    refine ⟨_, if_pos fits, ?_⟩
    intro back read
    have same := (canonicalJson_storedNumbers_iff stripped.floats).mpr kept
    rw [verifyContentHash, beq_iff_eq, contentHash, contentHash,
      canonicalJson_readBack stripped read, canonicalJson_reload stripped, same]

/-- The SHA-256 digests of three texts. -/
def knownDigest (text : String) : String :=
  if text = "\x7b\"log\":\"ab\",\"n\":3,\"value\":0.25\x7d" then
    "8c2f52cc9690e79027269c986267b5e71e7c986bec6e140e57a53b19db93bbf5"
  else if text = "\x7b\"value\":1e+16\x7d" then
    "f6b1d8095563fb7f57c554825c9d5402bfc8f69255edfaed38587394a2252515"
  else if text = "\x7b\"value\":10000000000000000\x7d" then
    "20be06524038a5963b1b9ce9a5df2d707a803d3140d6e3569c47248db42782b9"
  else ""

/-- A value, a count and a text that holds a NUL. -/
def metricResponse : Json :=
  .object [("value", .float (pyFloat false (1 / 4))),
    ("log", .str (String.ofList ['a', Char.ofNat 0, 'b'])), ("n", .int 3)]

theorem hashReverifies_metric : HashReverifies knownDigest metricResponse := by
  have float : IsFloat (pyFloat false (1 / 4)) false (1 / 4) :=
    ⟨by norm_num, by decide +kernel, rfl⟩
  have python : PythonJson metricResponse := by
    refine ⟨.object ?_, .object (by decide) ?_⟩
    · simp only [List.forall_mem_cons]
      exact ⟨.float ⟨_, _, float⟩, .other rfl (by simp), .other rfl (by simp), by simp⟩
    · simp only [List.forall_mem_cons]
      exact ⟨.scalar rfl, .scalar rfl, .scalar rfl, by simp⟩
  have kept : EachFloat FloatKept (stripNul metricResponse) := by
    have same : stripNul metricResponse = .object [("value", .float (pyFloat false (1 / 4))),
        ("log", .str "ab"), ("n", .int 3)] := by rfl
    rw [same]
    refine .object ?_
    simp only [List.forall_mem_cons]
    exact ⟨.float ((floatKept_iff float).mpr ⟨by norm_num, by simp⟩), .other rfl (by simp),
      .other rfl (by simp), by simp⟩
  refine (hashReverifies_iff python ?_).mpr ⟨by decide +kernel, kept⟩
  intro back read _
  rw [canonicalJson_readBack python.stripNul read, canonicalJson_reload python.stripNul,
    (canonicalJson_storedNumbers_iff python.stripNul.floats).mpr kept]

/-- The counter `1e16`: stored, it is the int of seventeen digits. -/
theorem not_hashReverifies :
    ¬ HashReverifies knownDigest (.object [("value", .float (pyFloat false (10 ^ 16)))]) := by
  rintro ⟨record, persisted, verifies⟩
  have float : IsFloat (pyFloat false (10 ^ 16)) false (10 ^ 16) :=
    ⟨by norm_num, by decide +kernel, rfl⟩
  have python : PythonJson (.object [("value", .float (pyFloat false (10 ^ 16)))]) := by
    refine ⟨.object ?_, .object (by decide) ?_⟩
    · exact List.forall_mem_singleton.mpr (.float ⟨_, _, float⟩)
    · exact List.forall_mem_singleton.mpr (.scalar rfl)
  rw [persistResponse, if_pos (by decide +kernel)] at persisted
  cases persisted
  have read := readBack_storedNumbers python.stripNul
  have verified := verifies _ read
  rw [verifyContentHash, beq_iff_eq, contentHash, contentHash, String.append_right_inj,
    canonicalJson_readBack python.stripNul read, canonicalJson_reload python.stripNul] at verified
  exact absurd verified (by decide +kernel)

end IncidentTriage.Verified

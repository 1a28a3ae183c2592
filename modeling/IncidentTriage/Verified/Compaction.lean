import IncidentTriage.Agents.Compaction
import IncidentTriage.Python.Floats
import Mathlib.Data.List.Forall2
import Mathlib.Tactic.IntervalCases
import Mathlib.Tactic.Linarith
import Mathlib.Tactic.Positivity

/-! # What compaction tells the model

A list that one round shortens ends with a marker of what is missing.  The next round takes
that marker for an entry, and what it says then is about the trimmed list.
-/

namespace IncidentTriage.Verified

open IncidentTriage.Python IncidentTriage.Agents

/-! ## The property -/

/-- What is shown of a value says truly what is missing: a shortened list has the first of its
entries and how many more there were; a shortened series has samples at even distances, the
first and the last among them, and how many points there were. -/
inductive Faithful : Json → Json → Prop
  | scalar {v : Json} (scalar : v.isScalar = true) : Faithful v v
  | object {fields shown : List (String × Json)} (keys : fields.map (·.1) = shown.map (·.1))
      (each : List.Forall₂ Faithful (fields.map (·.2)) (shown.map (·.2))) :
      Faithful (.object fields) (.object shown)
  | whole {items shown : List Json} (each : List.Forall₂ Faithful items shown) :
      Faithful (.list items) (.list shown)
  | head {items shown : List Json} {kept : Nat} (plain : isSeries items = false)
      (shortened : kept < items.length)
      (each : List.Forall₂ Faithful (items.take kept) shown) :
      Faithful (.list items) (.list (shown ++ [.str (moreMarker (items.length - kept))]))
  | samples {items shown : List Json} (series : isSeries items = true)
      (shortened : shown.length < items.length)
      (first : 0 ∈ samplePlaces shown.length items.length)
      (last : items.length - 1 ∈ samplePlaces shown.length items.length)
      (each : List.Forall₂ Faithful
        ((samplePlaces shown.length items.length).filterMap (items[·]?)) shown) :
      Faithful (.list items) (.list (shown ++ [.str (pointsMarker items.length)]))

/-- Compaction is faithful, or what it shrank is cut. -/
def CompactsFaithfully (value : Json) (limit : Int) : Prop :=
  (jsonText (trimToFit limit 8 value)).length ≤ limit →
    compact value limit = jsonText (trimToFit limit 8 value) ∧
      Faithful value (trimToFit limit 8 value)

/-! ## The condition -/

/-- How many entries a round keeps, after so many rounds. -/
def keepAfter (r : Nat) : Nat := 8 / 2 ^ r

/-- The value after so many rounds of trimming. -/
def rounds : Nat → Json → Json
  | 0, value => value
  | r + 1, value => trimLists (keepAfter r) (rounds r value)

/-- So many rounds are made until the text fits. -/
structure FitsAfter (value : Json) (limit : Int) (r : Nat) : Prop where
  least : ∀ j < r, limit < (jsonText (rounds j value)).length
  fits : (jsonText (rounds r value)).length ≤ limit

/-- Each list is short enough for so many rounds: it is left whole, or only the last round
shortens it (one entry more is counted right in a plain list), and a series is not shortened to
a single sample. -/
inductive Honest : Nat → Json → Prop
  | untouched (v : Json) : Honest 0 v
  | scalar {r : Nat} {v : Json} (scalar : v.isScalar = true) : Honest r v
  | object {r : Nat} {fields : List (String × Json)} (each : ∀ f ∈ fields, Honest r f.2) :
      Honest r (.object fields)
  | short {r : Nat} {items : List Json} (short : items.length ≤ keepAfter r)
      (each : ∀ x ∈ items, Honest (r + 1) x) : Honest (r + 1) (.list items)
  | head {r : Nat} {items : List Json} (plain : isSeries items = false)
      (shortened : keepAfter r < items.length)
      (once : ∀ q, r = q + 1 → items.length ≤ keepAfter q + 1)
      (each : ∀ x ∈ items.take (keepAfter r), Honest (r + 1) x) : Honest (r + 1) (.list items)
  | samples {r : Nat} {items : List Json} (series : isSeries items = true)
      (shortened : keepAfter r < items.length)
      (once : ∀ q, r = q + 1 → items.length ≤ keepAfter q) (several : 2 ≤ keepAfter r)
      (each : ∀ x ∈ (samplePlaces (keepAfter r) items.length).filterMap (items[·]?), Honest r x) :
      Honest (r + 1) (.list items)

/-! ## Trimming once -/

theorem trimItems_eq_map (keep : Nat) (items : List Json) :
    trimItems keep items = items.map (trimLists keep) := by
  induction items with
  | nil => rfl
  | cons v items ih => rw [trimItems, ih, List.map_cons]

theorem trimFields_eq_map (keep : Nat) (fields : List (String × Json)) :
    trimFields keep fields = fields.map (fun f => (f.1, trimLists keep f.2)) := by
  induction fields with
  | nil => rfl
  | cons f fields ih => rw [trimFields, ih, List.map_cons]

theorem trimLists_scalar {keep : Nat} {v : Json} (scalar : v.isScalar = true) :
    trimLists keep v = v := by
  cases v with
  | list items => cases scalar
  | object fields => cases scalar
  | _ => rfl

theorem trimLists_short {keep : Nat} {items : List Json} (short : items.length ≤ keep) :
    trimLists keep (.list items) = .list (items.map (trimLists keep)) := by
  have enough : (items.map (trimLists keep)).length ≤ keep := by rwa [List.length_map]
  simp only [trimLists, trimItems_eq_map, Nat.not_lt.mpr short, decide_false, Bool.and_false,
    Bool.false_eq_true, if_false, List.take_of_length_le enough, List.append_nil]

theorem trimLists_plain {keep : Nat} {items : List Json} (plain : isSeries items = false)
    (long : keep < items.length) :
    trimLists keep (.list items) = .list ((items.take keep).map (trimLists keep) ++
      [.str (moreMarker (items.length - keep))]) := by
  simp only [trimLists, trimItems_eq_map, plain, Bool.false_and, Bool.false_eq_true, if_false,
    if_pos long, List.map_take]

theorem trimLists_series {keep : Nat} {items : List Json} (series : isSeries items = true)
    (long : keep < items.length) :
    trimLists keep (.list items) =
      .list ((samplePlaces keep items.length).filterMap (items[·]?) ++
        [.str (pointsMarker items.length)]) := by
  simp only [trimLists, series, long, decide_true, Bool.and_self, if_true]

/-- A list stays a list. -/
theorem exists_trimLists_list (keep : Nat) (items : List Json) :
    ∃ shown, trimLists keep (.list items) = .list shown := by
  rcases Nat.lt_or_ge keep items.length with long | short
  · cases series : isSeries items with
    | false => exact ⟨_, trimLists_plain series long⟩
    | true => exact ⟨_, trimLists_series series long⟩
  · exact ⟨_, trimLists_short short⟩

/-! ## The places of the samples -/

section
variable {keep length : Nat}

theorem samplePlace_first : samplePlace keep length 0 = 0 := by
  have none : roundHalfEven 0 = 0 := by simpa using roundHalfEven_intCast 0
  simp [samplePlace, none]

theorem samplePlace_last (several : 2 ≤ keep) :
    samplePlace keep length (keep - 1) = length - 1 := by
  have steps : max (keep - 1) 1 = keep - 1 := by omega
  have nonzero : ((keep - 1 : Nat) : ℚ) ≠ 0 := by
    rw [Ne, Nat.cast_eq_zero]
    omega
  simp only [samplePlace, steps]
  rw [mul_div_cancel₀ _ nonzero]
  have whole := roundHalfEven_intCast ((length - 1 : Nat) : Int)
  rw [Int.cast_natCast] at whole
  rw [whole, Int.toNat_natCast]

/-- There are fewer samples than points, so no two of them are at one place. -/
theorem samplePlace_lt (long : keep < length) {i : Nat} (inside : i + 1 < keep) :
    samplePlace keep length i < samplePlace keep length (i + 1) := by
  have steps : max (keep - 1) 1 = keep - 1 := by omega
  have positive : (0 : ℚ) < (keep - 1 : Nat) := by
    rw [Nat.cast_pos]
    omega
  have wide : (1 : ℚ) < ((length - 1 : Nat) : ℚ) / (keep - 1 : Nat) := by
    rw [one_lt_div positive, Nat.cast_lt]
    omega
  simp only [samplePlace, steps]
  set step : ℚ := ((length - 1 : Nat) : ℚ) / (keep - 1 : Nat)
  have below := (roundHalfEven_near (i * step)).2
  have above := (roundHalfEven_near ((i + 1 : Nat) * step)).1
  have apart : roundHalfEven (i * step) < roundHalfEven ((i + 1 : Nat) * step) := by
    have reals : (roundHalfEven (i * step) : ℚ) < roundHalfEven ((i + 1 : Nat) * step) := by
      push_cast at above ⊢
      linarith
    exact_mod_cast reals
  have nonneg : 0 ≤ roundHalfEven (i * step) := by
    have floor : 0 ≤ ⌊(i : ℚ) * step⌋ := Int.floor_nonneg.mpr (by positivity)
    exact floor.trans (floor_le_roundHalfEven _)
  omega

theorem samplePlace_strict (long : keep < length) {i j : Nat} (before : i < j) (inside : j < keep) :
    samplePlace keep length i < samplePlace keep length j := by
  induction j with
  | zero => cases before
  | succ j ih =>
    rcases Nat.lt_succ_iff_lt_or_eq.mp before with earlier | rfl
    · exact (ih earlier (by omega)).trans (samplePlace_lt long inside)
    · exact samplePlace_lt long inside

theorem samplePlaces_eq (long : keep < length) :
    samplePlaces keep length = (List.range keep).map (samplePlace keep length) := by
  have sorted : ((List.range keep).map (samplePlace keep length)).Pairwise (· < ·) := by
    rw [List.pairwise_map]
    refine List.pairwise_lt_range.imp_of_mem ?_
    intro i j _ member before
    exact samplePlace_strict long before (List.mem_range.mp member)
  have apart : ((List.range keep).map (samplePlace keep length)).Nodup := sorted.imp Nat.ne_of_lt
  rw [samplePlaces, apart.dedup,
    List.Pairwise.insertionSort_eq (sorted.imp Nat.le_of_lt)]

theorem length_samplePlaces (long : keep < length) :
    (samplePlaces keep length).length = keep := by
  rw [samplePlaces_eq long, List.length_map, List.length_range]

theorem lt_of_mem_samplePlaces (long : keep < length) {p : Nat}
    (member : p ∈ samplePlaces keep length) : p < length := by
  rw [samplePlaces_eq long] at member
  obtain ⟨i, inside, rfl⟩ := List.mem_map.mp member
  rw [List.mem_range] at inside
  rcases Nat.lt_or_ge keep 2 with one | several
  · obtain rfl : i = 0 := by omega
    rw [samplePlace_first]
    omega
  · have last : samplePlace keep length i ≤ samplePlace keep length (keep - 1) := by
      rcases Nat.lt_or_ge i (keep - 1) with before | end_
      · exact (samplePlace_strict long before (by omega)).le
      · exact (congrArg _ (by omega : i = keep - 1)).le
    rw [samplePlace_last several] at last
    omega

theorem first_mem_samplePlaces (positive : 1 ≤ keep) (long : keep < length) :
    0 ∈ samplePlaces keep length := by
  rw [samplePlaces_eq long, List.mem_map]
  exact ⟨0, List.mem_range.mpr positive, samplePlace_first⟩

/-- The last point is among the samples when there are two or more. -/
theorem last_mem_samplePlaces (positive : 1 ≤ keep) (long : keep < length) :
    length - 1 ∈ samplePlaces keep length ↔ 2 ≤ keep := by
  rw [samplePlaces_eq long, List.mem_map]
  constructor
  · rintro ⟨i, inside, last⟩
    rw [List.mem_range] at inside
    by_contra one
    obtain rfl : i = 0 := by omega
    rw [samplePlace_first] at last
    omega
  · intro several
    exact ⟨keep - 1, List.mem_range.mpr (by omega), samplePlace_last several⟩

theorem length_filterMap_samplePlaces {items : List Json} (long : keep < items.length) :
    ((samplePlaces keep items.length).filterMap (items[·]?)).length = keep := by
  rw [List.filterMap_length_eq_length.mpr, length_samplePlaces long]
  intro p member
  rw [List.getElem?_eq_getElem (lt_of_mem_samplePlaces long member)]
  rfl

end

/-! ## Rounds -/

theorem keepAfter_succ_le (r : Nat) : keepAfter (r + 1) ≤ keepAfter r :=
  Nat.div_le_div_left (Nat.pow_le_pow_right (by decide) (Nat.le_succ r)) (Nat.pow_pos (by decide))

theorem keepAfter_antitone {j r : Nat} (le : j ≤ r) : keepAfter r ≤ keepAfter j := by
  induction le with
  | refl => exact Nat.le_refl _
  | step _ ih => exact (keepAfter_succ_le _).trans ih

theorem keepAfter_bounds {r : Nat} (rounds : r ≤ 3) : 1 ≤ keepAfter r ∧ (r ≤ 2 → 2 ≤ keepAfter r) ∧
    (∀ q, r = q + 1 → 2 * keepAfter r = keepAfter q) := by
  interval_cases r
  all_goals simp [keepAfter]

theorem rounds_scalar {r : Nat} {v : Json} (scalar : v.isScalar = true) : rounds r v = v := by
  induction r with
  | zero => rfl
  | succ r ih => rw [rounds, ih, trimLists_scalar scalar]

theorem rounds_object (r : Nat) (fields : List (String × Json)) :
    rounds r (.object fields) = .object (fields.map (fun f => (f.1, rounds r f.2))) := by
  induction r with
  | zero => simp [rounds]
  | succ r ih =>
    rw [rounds, ih, trimLists, trimFields_eq_map, List.map_map]
    rfl

theorem exists_rounds_list (r : Nat) (items : List Json) :
    ∃ shown, rounds r (.list items) = .list shown := by
  induction r with
  | zero => exact ⟨items, rfl⟩
  | succ r ih =>
    obtain ⟨shown, same⟩ := ih
    rw [rounds, same]
    exact exists_trimLists_list _ shown

/-- What a text is trimmed from is that text. -/
theorem eq_of_rounds_str {r : Nat} {v : Json} {text : String} (shown : rounds r v = .str text) :
    v = .str text := by
  cases v with
  | list items =>
    obtain ⟨trimmed, same⟩ := exists_rounds_list r items
    rw [same] at shown
    cases shown
  | object fields =>
    rw [rounds_object] at shown
    cases shown
  | _ => exact (rounds_scalar rfl).symm.trans shown

/-! ## Series through the rounds -/

theorem isPoint_of_length {items : List Json} (other : items.length ≠ 2) :
    isPoint (.list items) = false := by
  match items, other with
  | [], _ => rfl
  | [_], _ => simp [isPoint]
  | [_, _], other => exact absurd rfl other
  | _ :: _ :: _ :: _, _ => simp [isPoint]

/-- Where two entries or more are kept, an entry is a point after trimming if it was one. -/
theorem isPoint_trimLists {keep : Nat} (several : 2 ≤ keep) (v : Json) :
    isPoint (trimLists keep v) = isPoint v := by
  cases v with
  | list items =>
    rcases Nat.lt_or_ge keep items.length with long | short
    · have before : isPoint (.list items) = false := isPoint_of_length (by omega)
      rw [before]
      cases series : isSeries items with
      | false =>
        rw [trimLists_plain series long]
        refine isPoint_of_length ?_
        rw [List.length_append, List.length_map, List.length_take, List.length_singleton]
        omega
      | true =>
        rw [trimLists_series series long]
        refine isPoint_of_length ?_
        rw [List.length_append, length_filterMap_samplePlaces long, List.length_singleton]
        omega
    · rw [trimLists_short short]
      match items with
      | [a, b] =>
        cases a with
        | list inner =>
          obtain ⟨shown, same⟩ := exists_trimLists_list keep inner
          simp [isPoint, same]
        | _ => simp [isPoint, trimLists]
      | [] => rfl
      | [_] => simp [isPoint]
      | _ :: _ :: _ :: _ => simp [isPoint]
  | _ => simp [trimLists, isPoint]

theorem isSeries_map_rounds {r : Nat} (early : r ≤ 3) (items : List Json) :
    isSeries (items.map (rounds r)) = isSeries items := by
  have points : ∀ v, isPoint (rounds r v) = isPoint v := by
    intro v
    induction r with
    | zero => rfl
    | succ r ih =>
      have several := (keepAfter_bounds (by omega : r ≤ 3)).2.1 (by omega)
      rw [rounds, isPoint_trimLists several, ih (by omega)]
  simp only [isSeries, List.isEmpty_map, List.all_map, Function.comp_def, points]

theorem isSeries_append_str (items : List Json) (text : String) :
    isSeries (items ++ [.str text]) = false := by
  simp [isSeries, isPoint]

theorem rounds_short {r : Nat} {items : List Json} (short : ∀ j < r, items.length ≤ keepAfter j) :
    rounds r (.list items) = .list (items.map (rounds r)) := by
  induction r with
  | zero => simp [rounds]
  | succ r ih =>
    have now : (items.map (rounds r)).length ≤ keepAfter r := by
      rw [List.length_map]
      exact short r (Nat.lt_succ_self r)
    rw [rounds, ih fun j before => short j (Nat.lt_succ_of_lt before), trimLists_short now,
      List.map_map]
    rfl

/-- How long a plain list is before the round after `r`. -/
def lengthBefore : Nat → Nat → Nat
  | 0, length => length
  | q + 1, length => min length (keepAfter q + 1)

/-- A plain list that is too long in the end has its first entries, and a marker that counts
what the last round left out. -/
theorem rounds_plain {r : Nat} (early : r ≤ 3) {items : List Json}
    (plain : isSeries items = false) (long : keepAfter r < items.length) :
    rounds (r + 1) (.list items) = .list ((items.take (keepAfter r)).map (rounds (r + 1)) ++
      [.str (moreMarker (lengthBefore r items.length - keepAfter r))]) := by
  induction r with
  | zero => exact trimLists_plain plain long
  | succ r ih =>
    rcases Nat.lt_or_ge (keepAfter r) items.length with longer | short
    · -- shortened before: the marker is an entry of the list
      have before := ih (by omega) longer
      have halves := (keepAfter_bounds early).2.2 r rfl
      have positive := (keepAfter_bounds early).1
      set kept := (items.take (keepAfter r)).map (rounds (r + 1))
      have length : kept.length = keepAfter r := by
        rw [List.length_map, List.length_take, Nat.min_eq_left (Nat.le_of_lt longer)]
      have again : keepAfter (r + 1) < (kept ++ [Json.str (moreMarker
          (lengthBefore r items.length - keepAfter r))]).length := by
        rw [List.length_append, length, List.length_singleton]
        omega
      rw [rounds, before, trimLists_plain (isSeries_append_str _ _) again, List.length_append,
        length, List.length_singleton, lengthBefore, Nat.min_eq_right longer,
        List.take_append_of_le_length (by omega), ← List.map_take, List.take_take,
        Nat.min_eq_left (by omega), List.map_map]
      rfl
    · have short' : ∀ j < r + 1, items.length ≤ keepAfter j := fun j before =>
        short.trans (keepAfter_antitone (Nat.le_of_lt_succ before))
      have still : isSeries (items.map (rounds (r + 1))) = false :=
        (isSeries_map_rounds early items).trans plain
      have now : keepAfter (r + 1) < (items.map (rounds (r + 1))).length := by
        rwa [List.length_map]
      rw [rounds, rounds_short short', trimLists_plain still now, List.length_map, lengthBefore,
        Nat.min_eq_left (by omega), ← List.map_take, List.map_map]
      rfl

/-- A series that only the last round shortens has its samples and its marker. -/
theorem rounds_series {r : Nat} (early : r ≤ 3) {items : List Json}
    (series : isSeries items = true) (short : ∀ j < r, items.length ≤ keepAfter j)
    (long : keepAfter r < items.length) :
    rounds (r + 1) (.list items) =
      .list (((samplePlaces (keepAfter r) items.length).filterMap (items[·]?)).map (rounds r) ++
        [.str (pointsMarker items.length)]) := by
  have still : isSeries (items.map (rounds r)) = true :=
    (isSeries_map_rounds early items).trans series
  have now : keepAfter r < (items.map (rounds r)).length := by rwa [List.length_map]
  rw [rounds, rounds_short short, trimLists_series still now, List.length_map,
    List.map_filterMap]
  simp only [List.getElem?_map]

/-- A list that is too long ends with a marker, after as many entries as are kept. -/
theorem exists_rounds_marked {r : Nat} (early : r ≤ 3) {items : List Json}
    (long : keepAfter r < items.length) :
    ∃ kept marker, rounds (r + 1) (.list items) = .list (kept ++ [.str marker]) ∧
      kept.length = keepAfter r := by
  cases series : isSeries items with
  | false =>
    refine ⟨_, _, rounds_plain early series long, ?_⟩
    rw [List.length_map, List.length_take, Nat.min_eq_left (Nat.le_of_lt long)]
  | true =>
    induction r with
    | zero =>
      refine ⟨_, _, rounds_series early series (fun j before => absurd before (Nat.not_lt_zero j))
        long, ?_⟩
      rw [List.length_map, length_filterMap_samplePlaces long]
    | succ r ih =>
      rcases Nat.lt_or_ge (keepAfter r) items.length with longer | short
      · obtain ⟨kept, marker, before, length⟩ := ih (by omega) longer
        have halves := (keepAfter_bounds early).2.2 r rfl
        have again : keepAfter (r + 1) < (kept ++ [Json.str marker]).length := by
          rw [List.length_append, length, List.length_singleton]
          omega
        rw [rounds, before, trimLists_plain (isSeries_append_str _ _) again]
        refine ⟨_, _, rfl, ?_⟩
        rw [List.length_map, List.length_take, Nat.min_eq_left (Nat.le_of_lt again)]
      · have short' : ∀ j < r + 1, items.length ≤ keepAfter j := fun j before =>
          short.trans (keepAfter_antitone (Nat.le_of_lt_succ before))
        refine ⟨_, _, rounds_series early series short' long, ?_⟩
        rw [List.length_map, length_filterMap_samplePlaces long]

/-- A series that was shortened before the last round has lost its own marker. -/
theorem exists_rounds_counted {r : Nat} (early : r + 1 ≤ 3) {items : List Json}
    (longer : keepAfter r < items.length) :
    ∃ kept omitted, rounds (r + 2) (.list items) = .list (kept ++ [.str (moreMarker omitted)]) := by
  obtain ⟨kept, marker, before, length⟩ := exists_rounds_marked (by omega) longer
  have halves := (keepAfter_bounds early).2.2 r rfl
  have again : keepAfter (r + 1) < (kept ++ [Json.str marker]).length := by
    rw [List.length_append, length, List.length_singleton]
    omega
  rw [rounds, before, trimLists_plain (isSeries_append_str _ _) again]
  exact ⟨_, _, rfl⟩

/-! ## What is shown, by its shape -/

theorem moreMarker_inj {a b : Nat} (same : moreMarker a = moreMarker b) : a = b := by
  have digits := congrArg String.toList same
  simp only [moreMarker, String.toList_append, List.append_cancel_left_eq,
    List.append_cancel_right_eq, Nat.toString_eq_ofList_toDigits, String.toList_ofList] at digits
  rw [← Nat.ofDigitChars_ten_toDigits (n := a), digits, Nat.ofDigitChars_ten_toDigits]

theorem getLast?_append_text {text ending : String} (nonempty : ending.toList ≠ []) :
    (text ++ ending).toList.getLast? = ending.toList.getLast? := by
  rw [String.toList_append, List.getLast?_append_of_ne_nil _ nonempty]

theorem getLast?_moreMarker (omitted : Nat) : (moreMarker omitted).toList.getLast? = some 'e' :=
  getLast?_append_text (by decide)

theorem getLast?_pointsMarker (points : Nat) : (pointsMarker points).toList.getLast? = some 's' :=
  getLast?_append_text (by decide)

theorem moreMarker_ne_pointsMarker (omitted points : Nat) :
    moreMarker omitted ≠ pointsMarker points := by
  intro same
  have last := getLast?_moreMarker omitted
  rw [same, getLast?_pointsMarker] at last
  exact absurd last (by decide)

theorem faithful_str {v : Json} {text : String} (faithful : Faithful v (.str text)) :
    v = .str text := by
  cases faithful
  rfl

/-- How a list can be shown. -/
theorem Faithful.list_inv {items : List Json} {v : Json} (faithful : Faithful (.list items) v) :
    (∃ shown, v = .list shown ∧ List.Forall₂ Faithful items shown) ∨
    (∃ shown kept, v = .list (shown ++ [.str (moreMarker (items.length - kept))]) ∧
      isSeries items = false ∧ kept < items.length ∧
      List.Forall₂ Faithful (items.take kept) shown) ∨
    ∃ shown, v = .list (shown ++ [.str (pointsMarker items.length)]) ∧ isSeries items = true ∧
      items.length - 1 ∈ samplePlaces shown.length items.length ∧
      List.Forall₂ Faithful
        ((samplePlaces shown.length items.length).filterMap (items[·]?)) shown := by
  cases faithful with
  | scalar scalar => cases scalar
  | whole each => exact .inl ⟨_, rfl, each⟩
  | head plain shortened each => exact .inr (.inl ⟨_, _, rfl, plain, shortened, each⟩)
  | samples series _ _ last each => exact .inr (.inr ⟨_, rfl, series, last, each⟩)

theorem Faithful.object_inv {fields : List (String × Json)} {v : Json}
    (faithful : Faithful (.object fields) v) :
    ∃ shown, v = .object shown ∧
      List.Forall₂ Faithful (fields.map (·.2)) (shown.map (·.2)) := by
  cases faithful with
  | scalar scalar => cases scalar
  | object _ each => exact ⟨_, rfl, each⟩

theorem honest_object_iff {r : Nat} {fields : List (String × Json)} :
    Honest r (.object fields) ↔ ∀ f ∈ fields, Honest r f.2 := by
  constructor
  · intro honest
    cases honest with
    | untouched => exact fun f _ => .untouched f.2
    | scalar scalar => cases scalar
    | object each => exact each
  · exact .object

theorem honest_list_iff {r : Nat} {items : List Json} (early : keepAfter r < items.length) :
    Honest (r + 1) (.list items) ↔
      if isSeries items then (∀ q, r = q + 1 → items.length ≤ keepAfter q) ∧ 2 ≤ keepAfter r ∧
        ∀ x ∈ (samplePlaces (keepAfter r) items.length).filterMap (items[·]?), Honest r x
      else (∀ q, r = q + 1 → items.length ≤ keepAfter q + 1) ∧
        ∀ x ∈ items.take (keepAfter r), Honest (r + 1) x := by
  constructor
  · intro honest
    cases honest with
    | scalar scalar => cases scalar
    | short short _ => omega
    | head plain _ once each => simpa only [plain, Bool.false_eq_true, if_false] using ⟨once, each⟩
    | samples series _ once several each =>
      simpa only [series, if_true] using ⟨once, several, each⟩
  · intro parts
    split_ifs at parts with series
    · exact .samples series early parts.1 parts.2.1 parts.2.2
    · exact .head (by simpa using series) early parts.1 parts.2

theorem honest_short_iff {r : Nat} {items : List Json} (short : items.length ≤ keepAfter r) :
    Honest (r + 1) (.list items) ↔ ∀ x ∈ items, Honest (r + 1) x := by
  constructor
  · intro honest
    cases honest with
    | scalar scalar => cases scalar
    | short _ each => exact each
    | head _ shortened _ _ => omega
    | samples _ shortened _ _ _ => omega
  · exact .short short

/-- A series does not end with a text. -/
theorem not_ends_str {items kept : List Json} {text : String} (series : isSeries items = true)
    (shown : List.Forall₂ Faithful items (kept ++ [.str text])) : False := by
  have ends := List.forall₂_drop_append items kept [.str text] shown
  obtain ⟨last, others, faithful, -, rest⟩ := List.forall₂_cons_right_iff.mp ends
  have member : last ∈ items := List.mem_of_mem_drop (rest ▸ List.mem_cons_self)
  simp only [isSeries, Bool.and_eq_true, List.all_eq_true] at series
  have point := series.2 last member
  rw [faithful_str faithful] at point
  cases point

/-! ## A value after its rounds -/

section
variable {r : Nat} {items : List Json}

theorem forall₂_map_rounds (items : List Json)
    (each : ∀ x ∈ items, Faithful x (rounds r x) ↔ Honest r x) :
    List.Forall₂ Faithful items (items.map (rounds r)) ↔ ∀ x ∈ items, Honest r x := by
  rw [List.forall₂_map_right_iff, List.forall₂_same]
  exact forall₂_congr each

/-- A list that no round shortens. -/
theorem faithful_short_iff (short : items.length ≤ keepAfter r)
    (each : ∀ x ∈ items, Faithful x (rounds (r + 1) x) ↔ Honest (r + 1) x) :
    Faithful (.list items) (rounds (r + 1) (.list items)) ↔ Honest (r + 1) (.list items) := by
  have short' : ∀ j < r + 1, items.length ≤ keepAfter j := fun j before =>
    short.trans (keepAfter_antitone (Nat.le_of_lt_succ before))
  rw [rounds_short short', honest_short_iff short]
  constructor
  · intro faithful
    obtain ⟨shown, same, all⟩ | ⟨shown, kept, same, plain, shortened, front⟩ |
      ⟨shown, same, series, last, samples⟩ := faithful.list_inv
    · rw [← Json.list.inj same] at all
      exact (forall₂_map_rounds _ each).mp all
    · -- the last entry is a text that reads like a marker
      obtain ⟨first, ends, rfl, rfl, last⟩ := List.map_eq_append_iff.mp (Json.list.inj same)
      obtain ⟨entry, rfl, text⟩ := List.map_eq_singleton_iff.mp last
      have length : kept = first.length := by
        have lengths := front.length_eq
        rw [List.length_take, List.length_map] at lengths
        omega
      rw [length, List.take_left] at front
      have firsts := (forall₂_map_rounds _ fun x member =>
        each x (List.mem_append_left _ member)).mp front
      intro x member
      obtain early | end_ := List.mem_append.mp member
      · exact firsts x early
      · rw [List.mem_singleton.mp end_, eq_of_rounds_str text]
        exact .scalar rfl
    · obtain ⟨first, ends, rfl, -, last⟩ := List.map_eq_append_iff.mp (Json.list.inj same)
      obtain ⟨entry, rfl, text⟩ := List.map_eq_singleton_iff.mp last
      have other : isPoint entry = false := by
        rw [eq_of_rounds_str text]
        rfl
      simp [isSeries, other] at series
  · intro honest
    exact .whole ((forall₂_map_rounds _ each).mpr honest)

/-- A list that is not a series, and is too long in the end. -/
theorem faithful_plain_iff (early : r ≤ 3) (plain : isSeries items = false)
    (long : keepAfter r < items.length)
    (each : ∀ x ∈ items, Faithful x (rounds (r + 1) x) ↔ Honest (r + 1) x) :
    Faithful (.list items) (rounds (r + 1) (.list items)) ↔ Honest (r + 1) (.list items) := by
  have length : ((items.take (keepAfter r)).map (rounds (r + 1))).length = keepAfter r := by
    rw [List.length_map, List.length_take, Nat.min_eq_left (Nat.le_of_lt long)]
  have firsts := forall₂_map_rounds (items.take (keepAfter r)) fun x member =>
    each x (List.mem_of_mem_take member)
  rw [rounds_plain early plain long, honest_list_iff long, plain, if_neg Bool.false_ne_true,
    ← firsts]
  constructor
  · intro faithful
    obtain ⟨shown, same, all⟩ | ⟨shown, kept, same, -, shortened, front⟩ |
      ⟨shown, same, series, -⟩ := faithful.list_inv
    · -- one entry too many, which reads like the marker in its place
      rw [← Json.list.inj same] at all
      have lengths := all.length_eq
      rw [List.length_append, length, List.length_singleton] at lengths
      have front := List.forall₂_take_append items _ _ all
      rw [length] at front
      refine ⟨?_, front⟩
      rintro q rfl
      have fewer := keepAfter_succ_le q
      omega
    · obtain ⟨rfl, marker⟩ := List.append_singleton_inj.mp (Json.list.inj same)
      have count := moreMarker_inj (Json.str.inj marker)
      have lengths := front.length_eq
      rw [length, List.length_take] at lengths
      obtain rfl : kept = keepAfter r := by omega
      refine ⟨?_, front⟩
      rintro q rfl
      rw [lengthBefore] at count
      omega
    · rw [plain] at series
      cases series
  · rintro ⟨once, front⟩
    have whole : lengthBefore r items.length = items.length := by
      cases r with
      | zero => rfl
      | succ q => exact Nat.min_eq_left (once q rfl)
    rw [whole]
    exact .head plain long front

/-- A series that is too long in the end. -/
theorem faithful_series_iff (early : r ≤ 3) (series : isSeries items = true)
    (long : keepAfter r < items.length)
    (each : ∀ x ∈ items, Faithful x (rounds r x) ↔ Honest r x) :
    Faithful (.list items) (rounds (r + 1) (.list items)) ↔ Honest (r + 1) (.list items) := by
  rw [honest_list_iff long, series, if_pos rfl]
  by_cases once : ∀ q, r = q + 1 → items.length ≤ keepAfter q
  · have short : ∀ j < r, items.length ≤ keepAfter j := by
      intro j before
      have le := once (r - 1) (by omega)
      exact le.trans (keepAfter_antitone (by omega))
    have length : (((samplePlaces (keepAfter r) items.length).filterMap (items[·]?)).map
        (rounds r)).length = keepAfter r := by
      rw [List.length_map, length_filterMap_samplePlaces long]
    have chosen := forall₂_map_rounds
      ((samplePlaces (keepAfter r) items.length).filterMap (items[·]?)) fun x member => by
        obtain ⟨p, -, found⟩ := List.mem_filterMap.mp member
        exact each x (List.mem_of_getElem? found)
    have positive := (keepAfter_bounds early).1
    rw [rounds_series early series short long, ← last_mem_samplePlaces positive long, ← chosen]
    constructor
    · intro faithful
      obtain ⟨shown, same, all⟩ | ⟨shown, kept, -, plain, -⟩ | ⟨shown, same, -, last, samples⟩ :=
        faithful.list_inv
      · rw [← Json.list.inj same] at all
        exact (not_ends_str series all).elim
      · rw [series] at plain
        cases plain
      · obtain ⟨rfl, -⟩ := List.append_singleton_inj.mp (Json.list.inj same)
        rw [length] at last samples
        exact ⟨once, last, samples⟩
    · rintro ⟨-, last, samples⟩
      refine .samples series ?_ ?_ ?_ ?_
      · rwa [length]
      · rw [length]
        exact first_mem_samplePlaces positive long
      · rwa [length]
      · rwa [length]
  · -- the marker of the points was counted as an entry
    refine iff_of_false ?_ fun honest => once honest.1
    intro faithful
    obtain ⟨q, rfl, longer⟩ : ∃ q, r = q + 1 ∧ keepAfter q < items.length := by
      simpa using once
    obtain ⟨kept, omitted, counted⟩ := exists_rounds_counted early longer
    rw [counted] at faithful
    obtain ⟨shown, same, all⟩ | ⟨shown, -, -, plain, -⟩ | ⟨shown, same, -⟩ := faithful.list_inv
    · rw [← Json.list.inj same] at all
      exact not_ends_str series all
    · rw [series] at plain
      cases plain
    · obtain ⟨-, marker⟩ := List.append_singleton_inj.mp (Json.list.inj same)
      exact moreMarker_ne_pointsMarker _ _ (Json.str.inj marker)

end

/-- What is shown after some rounds is faithful exactly when every list in the value bears that
many rounds. -/
theorem faithful_rounds_iff {r : Nat} (most : r ≤ 4) (v : Json) :
    Faithful v (rounds r v) ↔ Honest r v := by
  induction v using Json.induction generalizing r with
  | scalar v scalar =>
    rw [rounds_scalar scalar]
    exact iff_of_true (.scalar scalar) (.scalar scalar)
  | object fields each =>
    have parts : List.Forall₂ Faithful (fields.map (·.2)) (fields.map fun f => rounds r f.2) ↔
        ∀ f ∈ fields, Honest r f.2 := by
      rw [List.forall₂_map_left_iff, List.forall₂_map_right_iff, List.forall₂_same]
      exact forall₂_congr fun f member => each f member most
    rw [rounds_object, honest_object_iff, ← parts]
    constructor
    · intro faithful
      obtain ⟨shown, same, all⟩ := faithful.object_inv
      rwa [← Json.object.inj same, List.map_map] at all
    · intro all
      refine .object ?_ ?_
      · rw [List.map_map]
        rfl
      · rwa [List.map_map]
  | list items each =>
    cases r with
    | zero =>
      refine iff_of_true (.whole (List.forall₂_same.mpr ?_)) (.untouched _)
      exact fun x member => (each x member (Nat.zero_le 4)).mpr (.untouched x)
    | succ r =>
      have early : r ≤ 3 := by omega
      obtain long | short := Nat.lt_or_ge (keepAfter r) items.length
      · cases series : isSeries items with
        | false =>
          exact faithful_plain_iff early series long fun x member => each x member most
        | true =>
          exact faithful_series_iff early series long fun x member => each x member (by omega)
      · exact faithful_short_iff short fun x member => each x member most

/-! ## How many rounds there are -/

/-- Compaction makes the first number of rounds after which the text fits, and four at most. -/
theorem exists_trimToFit_eq (value : Json) (limit : Int) :
    ∃ r ≤ 4, trimToFit limit 8 value = rounds r value ∧
      (∀ j < r, limit < (jsonText (rounds j value)).length) ∧
      (r < 4 → (jsonText (rounds r value)).length ≤ limit) := by
  have onward : ∀ left r, left + r = 4 →
      (∀ j < r, limit < (jsonText (rounds j value)).length) →
      ∃ last ≤ 4, trimToFit limit (keepAfter r) (rounds r value) = rounds last value ∧
        (∀ j < last, limit < (jsonText (rounds j value)).length) ∧
        (last < 4 → (jsonText (rounds last value)).length ≤ limit) := by
    intro left
    induction left with
    | zero =>
      intro r all long
      obtain rfl : r = 4 := by omega
      refine ⟨4, Nat.le_refl 4, ?_, long, fun more => absurd more (Nat.lt_irrefl 4)⟩
      rw [trimToFit, if_neg]
      rintro ⟨-, none⟩
      exact absurd none (by decide)
    | succ left ih =>
      intro r all long
      rw [trimToFit]
      split_ifs with exceeds
      · have next : keepAfter r / 2 = keepAfter (r + 1) := by
          rw [keepAfter, keepAfter, Nat.div_div_eq_div_mul, Nat.pow_succ]
        rw [next]
        refine ih (r + 1) (by omega) ?_
        intro j before
        obtain earlier | rfl := Nat.lt_succ_iff_lt_or_eq.mp before
        · exact long j earlier
        · exact exceeds.1
      · refine ⟨r, by omega, rfl, long, ?_⟩
        intro _
        have positive := (keepAfter_bounds (by omega : r ≤ 3)).1
        by_contra more
        exact exceeds ⟨by omega, positive⟩
  exact onward 4 0 rfl fun j before => absurd before (Nat.not_lt_zero j)

/-- Compaction does not lie exactly when every list bears the rounds that are made. -/
theorem compactsFaithfully_iff (value : Json) (limit : Int) :
    CompactsFaithfully value limit ↔ ∀ r ≤ 4, FitsAfter value limit r → Honest r value := by
  obtain ⟨r, most, made, long, enough⟩ := exists_trimToFit_eq value limit
  have shown : CompactsFaithfully value limit ↔
      ((jsonText (rounds r value)).length ≤ limit → Faithful value (rounds r value)) := by
    rw [CompactsFaithfully, compact, made]
    refine forall_congr' fun fits => ?_
    rw [if_neg (by omega)]
    exact and_iff_right rfl
  rw [shown, faithful_rounds_iff most]
  constructor
  · intro honest other most' fits
    obtain fewer | rfl | more := Nat.lt_trichotomy other r
    · have exceeds := long other fewer
      have within := fits.fits
      omega
    · exact honest fits.fits
    · have exceeds := fits.least r more
      have within := enough (by omega)
      omega
  · exact fun honest fits => honest r most ⟨long, fits⟩

/-- Twelve numbers: two rounds are made, and the second takes the marker of the first for the
ninth. -/
theorem not_compactsFaithfully :
    ¬ CompactsFaithfully (.list (List.replicate 12 (.int 1))) 24 := by
  intro faithful
  have made : trimToFit 24 8 (.list (List.replicate 12 (.int 1))) =
      rounds 2 (.list (List.replicate 12 (.int 1))) := by
    rw [trimToFit, if_pos (by decide +kernel), trimToFit, if_pos (by decide +kernel), trimToFit,
      if_neg (by decide +kernel)]
    rfl
  rw [CompactsFaithfully, made] at faithful
  have honest := (faithful_rounds_iff (by decide) _).mp (faithful (by decide +kernel)).2
  rw [honest_list_iff (by decide)] at honest
  exact absurd (honest.1 0 rfl) (by decide)

end IncidentTriage.Verified

import IncidentTriage.Python.Json

/-! # The time scope of evidence queries

Every query runs for an incident, and the incident decides how far back it may reach.  A
caller's window is resolved against the clock, and refused unless it is within the limits.
-/

namespace IncidentTriage.Evidence

open IncidentTriage.Python

/-! ## Limits, in microseconds -/

def minutes (n : Int) : Int := n * 60000000
def hours (n : Int) : Int := minutes (n * 60)

def maxWindow : Int := hours 3
def minWindow : Int := minutes 1
def defaultWindow : Int := minutes 30
def maxLookbackBeforeIncident : Int := hours 24

/-- A `datetime` that a caller supplies: without a time zone it is refused. -/
structure SuppliedTime where
  at_ : Time
  aware : Bool := true
  deriving DecidableEq

/-- `IncidentScope`, as far as windows go. -/
structure IncidentScope where
  createdAt : Time

/-- Why a window is refused. -/
inductive WindowError where
  | naive
  | reversed
  | tooLong (length maximum : Int)
  | tooShort (length : Int)
  | tooEarly (earliest : Time)
  deriving DecidableEq

/-- The text of the error, given `isoformat`. -/
def WindowError.message (isoformat : Time → String) : WindowError → String
  | .naive => "window timestamps must be timezone-aware"
  | .reversed => "window start must be before its end (and not in the future)"
  | .tooLong length maximum =>
    "window " ++ timedeltaStr length ++ " exceeds the maximum " ++ timedeltaStr maximum
  | .tooShort length =>
    "window " ++ timedeltaStr length ++ " is below the minimum " ++ timedeltaStr minWindow
  | .tooEarly earliest =>
    "window starts before " ++ isoformat earliest ++ " (" ++
      timedeltaStr maxLookbackBeforeIncident ++ " before the incident opened)"

/-- The earliest instant a query of the incident may reach. -/
def IncidentScope.earliest (scope : IncidentScope) : Time :=
  scope.createdAt - maxLookbackBeforeIncident

def isNaive : Option SuppliedTime → Bool
  | some moment => !moment.aware
  | none => false

/-- The end of the window: now, where the caller gives none or a later one. -/
def resolvedEnd (end_ : Option SuppliedTime) (now : Time) : Time :=
  min ((end_.map (·.at_)).getD now) now

def IncidentScope.resolvedStart (scope : IncidentScope) (start : Option SuppliedTime) (end_ : Time)
    (default_ : Int) : Time :=
  (start.map (·.at_)).getD (max (end_ - default_) scope.earliest)

/-- `IncidentScope.window`. -/
def IncidentScope.window (scope : IncidentScope) (start end_ : Option SuppliedTime) (now : Time)
    (default_ : Int := defaultWindow) (maxLength : Int := maxWindow) :
    Except WindowError (Time × Time) :=
  if isNaive start || isNaive end_ then .error .naive
  else
    let resolvedEnd := resolvedEnd end_ now
    let resolvedStart := scope.resolvedStart start resolvedEnd default_
    let length := resolvedEnd - resolvedStart
    if resolvedEnd ≤ resolvedStart then .error .reversed
    else if maxLength < length then .error (.tooLong length maxLength)
    else if length < minWindow then .error (.tooShort length)
    else if resolvedStart < scope.earliest then .error (.tooEarly scope.earliest)
    else .ok (resolvedStart, resolvedEnd)

/-- What a window satisfies that is not refused. -/
structure InBounds (scope : IncidentScope) (now : Time) (maxLength : Int) (window : Time × Time) :
    Prop where
  end_le : window.2 ≤ now
  length_le : window.2 - window.1 ≤ maxLength
  le_length : minWindow ≤ window.2 - window.1
  earliest_le : scope.earliest ≤ window.1

theorem InBounds.start_le {scope : IncidentScope} {now : Time} {maxLength : Int}
    {window : Time × Time} (bounds : InBounds scope now maxLength window) :
    window.1 ≤ window.2 := by
  have positive : 0 ≤ minWindow := by decide
  exact Int.sub_nonneg.mp (positive.trans bounds.le_length)

/-- A window is never empty. -/
theorem InBounds.start_lt {scope : IncidentScope} {now : Time} {maxLength : Int}
    {window : Time × Time} (bounds : InBounds scope now maxLength window) :
    window.1 < window.2 := by
  have positive : 0 < minWindow := by decide
  exact Int.sub_pos.mp (positive.trans_le bounds.le_length)

theorem IncidentScope.window_ok {scope : IncidentScope} {start end_ : Option SuppliedTime} {now : Time}
    {default_ maxLength : Int} {window : Time × Time}
    (resolved : scope.window start end_ now default_ maxLength = .ok window) :
    InBounds scope now maxLength window := by
  simp only [IncidentScope.window] at resolved
  split_ifs at resolved with naive reversed long short early
  obtain rfl := Except.ok.inj resolved
  exact ⟨Int.min_le_right _ _, not_lt.mp long, not_lt.mp short, not_lt.mp early⟩

end IncidentTriage.Evidence

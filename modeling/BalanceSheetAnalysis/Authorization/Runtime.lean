import Mathlib.Init

/-! The parts of the Python runtime that conditions on time consult: the time
zone database of the host and the ISO 8601 readers of `datetime`.  `none`
stands for an exception. -/
namespace BalanceSheetAnalysis.Authorization

/-- Microseconds since 1970 in UTC, up to the last year a `datetime` can hold. -/
abbrev ServerTime := { micros : Int // 0 ≤ micros ∧ micros < 253402300800000000 }

/-- The start of 1970. -/
def epoch : ServerTime := ⟨0, by decide⟩

/-- A `datetime`: what its wall clock shows, and its offset unless it is naive. -/
structure PyDateTime where
  wall : Int
  utcOffset : Option Int

/-- A `time` of day, in microseconds since midnight. -/
structure PyTime where
  micros : Int
  utcOffset : Option Int

/-- `<=` on times raises when only one side has an offset. -/
def PyTime.le (left right : PyTime) : Option Bool :=
  match left.utcOffset, right.utcOffset with
  | none, none => some (left.micros ≤ right.micros)
  | some before, some after => some (left.micros - before ≤ right.micros - after)
  | _, _ => none

structure Runtime where
  Zone : Type
  /-- `ZoneInfo(name)`. -/
  zoneInfo : String → Option Zone
  /-- `name in available_timezones()`. -/
  availableTimezones : String → Bool
  /-- `.astimezone(tz)` of a UTC instant: the ordinal of its date and its naive time. -/
  astimezone : Int → Zone → Option (Int × PyTime)
  timeFromIsoformat : String → Option PyTime
  /-- The ordinal of the date. -/
  dateFromIsoformat : String → Option Int
  datetimeFromIsoformat : String → Option PyDateTime
  /-- `datetime.isoformat` of a UTC instant. -/
  isoformat : Int → String

/-- A host that knows the zone UTC only, and of all texts only the start of 1970. -/
def utcRuntime : Runtime where
  Zone := Unit
  zoneInfo name := if name = "UTC" then some () else none
  availableTimezones name := name == "UTC"
  astimezone micros _ := some (719163 + micros / 86400000000, ⟨micros % 86400000000, none⟩)
  timeFromIsoformat text := if text = "00:00:00" then some ⟨0, none⟩ else none
  dateFromIsoformat text := if text = "1970-01-01" then some 719163 else none
  datetimeFromIsoformat text :=
    if text = "1970-01-01T00:00:00+00:00" then some ⟨0, some 0⟩ else none
  isoformat micros := if micros = 0 then "1970-01-01T00:00:00+00:00" else ""

end BalanceSheetAnalysis.Authorization

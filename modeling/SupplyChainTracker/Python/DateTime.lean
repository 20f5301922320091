import Mathlib.Tactic.Common

/-!
# `datetime` texts

Dates are counted in days and instants in microseconds, both from the epoch. Their
ISO texts are those of `date` and of a `datetime` in UTC.
-/

namespace SupplyChainTracker

/-- A `date`, in days since the epoch. -/
abbrev Date : Type := Int

/-- A `tzinfo`; a naive `datetime` has none. -/
inductive TzInfo : Type
  | utc
  | other (name : String)
  deriving DecidableEq, Repr

namespace DateTimeText

/-- A decimal with at least `width` digits. -/
def pad (width n : Nat) : String :=
  String.join (List.replicate (width - (toString n).length) "0") ++ toString n

/-- Year, month and day of a date. The calendar repeats every 146097 days; within such an era
years start on the first of March. -/
def civil (date : Date) : Int × Nat × Nat :=
  let shifted := date + 719468
  let era := shifted.fdiv 146097
  let dayOfEra := (shifted.fmod 146097).toNat
  let yearOfEra := (dayOfEra - dayOfEra / 1460 + dayOfEra / 36524 - dayOfEra / 146096) / 365
  let dayOfYear := dayOfEra - (365 * yearOfEra + yearOfEra / 4 - yearOfEra / 100)
  let fromMarch := (5 * dayOfYear + 2) / 153
  let day := dayOfYear - (153 * fromMarch + 2) / 5 + 1
  let month := if fromMarch < 10 then fromMarch + 3 else fromMarch - 9
  (era * 400 + yearOfEra + (if month ≤ 2 then 1 else 0), month, day)

/-- `str(date)`. -/
def date (d : Date) : String :=
  let (year, month, day) := civil d
  pad 4 year.toNat ++ "-" ++ pad 2 month ++ "-" ++ pad 2 day

/-- The microseconds of a day. -/
def microsecondsPerDay : Int := 24 * 60 * 60 * 1000000

/-- `isoformat()` of a `datetime` in UTC. -/
def isoformat (instant : Int) : String :=
  let time := (instant.fmod microsecondsPerDay).toNat
  let seconds := time / 1000000
  let fraction := time % 1000000
  date (instant.fdiv microsecondsPerDay) ++ "T" ++ pad 2 (seconds / 3600) ++ ":" ++
    pad 2 (seconds / 60 % 60) ++ ":" ++ pad 2 (seconds % 60) ++
    (if fraction = 0 then "" else "." ++ pad 6 fraction) ++ "+00:00"

/-- `isoformat()` of a naive `datetime`, which has no offset. -/
def isoformatNaive (instant : Int) : String :=
  String.ofList ((isoformat instant).toList.take ((isoformat instant).length - 6))

example : isoformat 1767225599000001 = "2025-12-31T23:59:59.000001+00:00" := by decide

end DateTimeText

end SupplyChainTracker

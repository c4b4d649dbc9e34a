/-!
# Run ids

A batch is known by the second in which it starts, in universal time: `run_20240131_094500`.
-/

namespace Blueprint.Batch

/-- A day of the calendar. -/
structure CivilDate where
  year : Nat
  month : Nat
  day : Nat
deriving DecidableEq, Repr, Inhabited

/-- The day that lies a number of days after the first of January 1970.  Years are counted from
March on, so that the leap day is the last day of a year, in cycles of 400 years. -/
def CivilDate.ofDays (days : Nat) : CivilDate :=
  let shifted := days + 719468
  let cycle := shifted / 146097
  let dayOfCycle := shifted % 146097
  let yearOfCycle :=
    (dayOfCycle - dayOfCycle / 1460 + dayOfCycle / 36524 - dayOfCycle / 146096) / 365
  let dayOfYear := dayOfCycle - (365 * yearOfCycle + yearOfCycle / 4 - yearOfCycle / 100)
  let marchMonth := (5 * dayOfYear + 2) / 153
  let month := if marchMonth < 10 then marchMonth + 3 else marchMonth - 9
  { year := yearOfCycle + 400 * cycle + if month ≤ 2 then 1 else 0
    month
    day := dayOfYear - (153 * marchMonth + 2) / 5 + 1 }

/-- A number with at least so many digits. -/
def padded (width n : Nat) : String :=
  let digits := Nat.toDigits 10 n
  String.ofList (List.replicate (width - digits.length) '0' ++ digits)

/-- The id of a batch that starts so many seconds after the first of January 1970. -/
def runId (seconds : Nat) : String :=
  let date := CivilDate.ofDays (seconds / 86400)
  "run_" ++ padded 4 date.year ++ padded 2 date.month ++ padded 2 date.day ++ "_" ++
    padded 2 (seconds / 3600 % 24) ++ padded 2 (seconds / 60 % 60) ++ padded 2 (seconds % 60)

end Blueprint.Batch

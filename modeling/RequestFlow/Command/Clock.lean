/-!
# RequestFlow.Command.Clock

What a run's own logic does not determine: its identifier and its times.

* `Clock`         — both, as they are shown.
* `timestampText` — a point in time as a date and a time of day.
-/

namespace RequestFlow.Command

structure Clock where
  runId : String
  startedAt : String
  finishedAt : String
  /-- How many milliseconds each record took, by its number. -/
  took : Nat → Nat

/-- A number with zeros before it, `width` digits or more. -/
def padded (width n : Nat) : String :=
  let digits := Nat.toDigits 10 n
  String.ofList (List.replicate (width - digits.length) '0' ++ digits)

/-- The year, month and day that lie so many days after the first of January 1970. Years are
counted from March, in spans of 400 years, which have 146097 days. -/
def dateOfDays (days : Nat) : Nat × Nat × Nat :=
  let days := days + 719468
  let inSpan := days % 146097
  let yearInSpan := (inSpan - inSpan / 1460 + inSpan / 36524 - inSpan / 146096) / 365
  let inYear := inSpan - (365 * yearInSpan + yearInSpan / 4 - yearInSpan / 100)
  let fromMarch := (5 * inYear + 2) / 153
  let day := inYear - (153 * fromMarch + 2) / 5 + 1
  let month := if fromMarch < 10 then fromMarch + 3 else fromMarch - 9
  let year := days / 146097 * 400 + yearInSpan
  (if month ≤ 2 then year + 1 else year, month, day)

/-- A fraction of a second in three, six or nine digits, as few as hold it. -/
def fractionText (nanoseconds : Nat) : String :=
  if nanoseconds = 0 then ""
  else if nanoseconds % 1000000 = 0 then "." ++ padded 3 (nanoseconds / 1000000)
  else if nanoseconds % 1000 = 0 then "." ++ padded 6 (nanoseconds / 1000)
  else "." ++ padded 9 nanoseconds

def timestampText (nanoseconds : Nat) : String :=
  let seconds := nanoseconds / 1000000000
  let (year, month, day) := dateOfDays (seconds / 86400)
  let inDay := seconds % 86400
  s!"{padded 4 year}-{padded 2 month}-{padded 2 day}T" ++
    s!"{padded 2 (inDay / 3600)}:{padded 2 (inDay / 60 % 60)}:{padded 2 (inDay % 60)}" ++
    fractionText (nanoseconds % 1000000000) ++ "Z"

example : timestampText 951782400000000000 = "2000-02-29T00:00:00Z" := by decide +kernel

example : timestampText 1709251199123456789 = "2024-02-29T23:59:59.123456789Z" := by
  decide +kernel

end RequestFlow.Command

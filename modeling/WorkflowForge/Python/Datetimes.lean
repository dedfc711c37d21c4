import WorkflowForge.Python.Text

/-! The text form of datetimes in UTC. -/

namespace Python

/-- The last digits of a number, as many as asked for. -/
def lastDigits : Nat → Nat → Text
  | 0, _ => []
  | count + 1, n => lastDigits count (n / 10) ++ [Nat.digitChar (n % 10)]

theorem length_lastDigits (count n : Nat) : (lastDigits count n).length = count := by
  induction count generalizing n with
  | zero => rfl
  | succ count ih => simp [lastDigits, ih]

/-- Year, month and day of a day counted from 1970-01-01, in the proleptic Gregorian calendar.
Years start in March, so that a leap day is the last day of its year. -/
def civilDate (day : Int) : Nat × Nat × Nat :=
  let shifted := day + 719468
  let era := shifted / 146097
  let dayOfEra := (shifted % 146097).toNat
  let yearOfEra := (dayOfEra - dayOfEra / 1460 + dayOfEra / 36524 - dayOfEra / 146096) / 365
  let dayOfYear := dayOfEra - (365 * yearOfEra + yearOfEra / 4 - yearOfEra / 100)
  let monthFromMarch := (5 * dayOfYear + 2) / 153
  let month := if monthFromMarch < 10 then monthFromMarch + 3 else monthFromMarch - 9
  let year := era * 400 + yearOfEra + (if month ≤ 2 then 1 else 0)
  (year.toNat, month, dayOfYear - (153 * monthFromMarch + 2) / 5 + 1)

/-- `value.isoformat()` of a UTC datetime, given in microseconds from the epoch. -/
def isoformat (instant : Int) : Text :=
  let (year, month, day) := civilDate (instant / 86400000000)
  let micros := (instant % 86400000000).toNat
  let seconds := micros / 1000000
  let fraction := micros % 1000000
  lastDigits 4 year ++ '-' :: lastDigits 2 month ++ '-' :: lastDigits 2 day
  ++ 'T' :: lastDigits 2 (seconds / 3600) ++ ':' :: lastDigits 2 (seconds / 60 % 60)
  ++ ':' :: lastDigits 2 (seconds % 60)
  ++ (if fraction = 0 then [] else '.' :: lastDigits 6 fraction)
  ++ "+00:00".toList

theorem length_isoformat_le (instant : Int) : (isoformat instant).length ≤ 32 := by
  unfold isoformat
  simp only [List.length_append, List.length_cons, length_lastDigits]
  split <;> simp [length_lastDigits]

example : isoformat 951782400000001 = "2000-02-29T00:00:00.000001+00:00".toList := by decide

end Python

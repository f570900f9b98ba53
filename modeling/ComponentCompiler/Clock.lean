import ComponentCompiler.Decimal.Binary64

/-!
# Moments

A moment is counted in seconds and nanoseconds from the start of the year 1970, without regard to
time zones. It can be told in milliseconds, as one number, or as a date and a time of the day.
-/

namespace ComponentCompiler

/-- A moment, as whole seconds since the epoch and the nanoseconds after them. -/
structure Timestamp where
  seconds : Int
  nanoseconds : Nat
  deriving DecidableEq, Repr, Inhabited

namespace Timestamp

/-- The milliseconds since the epoch, for moments that are not before it. The seconds and their
fraction are rounded on their own, then their sum, then the product. -/
def milliseconds? (t : Timestamp) : Option Binary64 := do
  if t.seconds < 0 then
    none
  else
    let seconds ← Binary64.ofRatio? false t.seconds.natAbs 1
    let fraction ← Binary64.ofRatio? false t.nanoseconds (10 ^ 9)
    (← seconds.sum? fraction).times? 1000

/-- The year, month and day of a number of days since the epoch. Years are counted from March on,
so that a leap day is the last day of its year, and in spans of 400 years, which are all alike. -/
def dateOf (days : Int) : Int × Nat × Nat :=
  let shifted := days + 719468
  let span := shifted / 146097
  let day := (shifted % 146097).toNat
  let year := (day - day / 1460 + day / 36524 - day / 146096) / 365
  let dayOfYear := day - (365 * year + year / 4 - year / 100)
  let month := (5 * dayOfYear + 2) / 153
  let dayOfMonth := dayOfYear - (153 * month + 2) / 5 + 1
  if month < 10 then
    (span * 400 + year, month + 3, dayOfMonth)
  else
    (span * 400 + year + 1, month - 9, dayOfMonth)

/-- A number with zeros in front, up to a width. -/
def padded (width n : Nat) : String :=
  let digits := Nat.toDigits 10 n
  String.ofList (List.replicate (width - digits.length) '0' ++ digits)

/-- The date and the time of the day, to the microsecond. -/
def text (t : Timestamp) : String :=
  let (year, month, day) := dateOf (t.seconds / 86400)
  let second := (t.seconds % 86400).toNat
  padded 4 year.toNat ++ "-" ++ padded 2 month ++ "-" ++ padded 2 day ++ "T" ++
    padded 2 (second / 3600) ++ ":" ++ padded 2 (second / 60 % 60) ++ ":" ++
    padded 2 (second % 60) ++ "." ++ padded 6 (t.nanoseconds / 1000) ++ "Z"

end Timestamp
end ComponentCompiler

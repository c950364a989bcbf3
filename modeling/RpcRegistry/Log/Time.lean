import RpcRegistry.Text.Numeral
import RpcRegistry.Text.Padding

/-!
The time of a log record: date and time of day in UTC, to the nanosecond. Days are counted in eras
of 400 years that start on the first of March, so a leap day is the last day of its year.
-/

namespace RpcRegistry.Log

open RpcRegistry.Text

structure Date where
  year : Nat
  month : Nat
  day : Nat
  deriving DecidableEq, Repr

/-- The date of a day that is counted from the first of January 1970. -/
def Date.ofDays (days : Nat) : Date :=
  let shifted := days + 719468
  let era := shifted / 146097
  let dayOfEra := shifted % 146097
  let yearOfEra :=
    (dayOfEra - dayOfEra / 1460 + dayOfEra / 36524 - dayOfEra / 146096) / 365
  let dayOfYear := dayOfEra - (365 * yearOfEra + yearOfEra / 4 - yearOfEra / 100)
  let shiftedMonth := (5 * dayOfYear + 2) / 153
  let month := if shiftedMonth < 10 then shiftedMonth + 3 else shiftedMonth - 9
  { year := yearOfEra + era * 400 + if month ≤ 2 then 1 else 0
    month
    day := dayOfYear - (153 * shiftedMonth + 2) / 5 + 1 }

example : Date.ofDays 0 = ⟨1970, 1, 1⟩ := by decide

example : Date.ofDays 19782 = ⟨2024, 2, 29⟩ := by decide

def padded (width n : Nat) : List Char := padLeft '0' width (Numeral.decimal n)

def timeText (seconds nanoseconds : Nat) : String :=
  let date := Date.ofDays (seconds / 86400)
  let clock := seconds % 86400
  String.ofList <| padded 4 date.year ++ '-' :: padded 2 date.month ++ '-' :: padded 2 date.day ++
    'T' :: padded 2 (clock / 3600) ++ ':' :: padded 2 (clock / 60 % 60) ++
    ':' :: padded 2 (clock % 60) ++ '.' :: padded 9 nanoseconds ++ ['Z']

end RpcRegistry.Log

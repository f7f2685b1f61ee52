import BotTypings.Schema.Basic

/-! Points in time as text: the civil date and the time of day in universal time. -/
namespace BotTypings

/-- The civil date of a day counted from the first of March of the year 0. Years begin in March, so that
a leap day is the last day of its year. -/
def civilDate (day : Nat) : Nat × Nat × Nat :=
  let era := day / 146097
  let dayOfEra := day % 146097
  let yearOfEra := (dayOfEra - dayOfEra / 1460 + dayOfEra / 36524 - dayOfEra / 146096) / 365
  let dayOfYear := dayOfEra - (365 * yearOfEra + yearOfEra / 4 - yearOfEra / 100)
  let month := (5 * dayOfYear + 2) / 153
  let dayOfMonth := dayOfYear - (153 * month + 2) / 5 + 1
  let year := yearOfEra + era * 400
  if month < 10 then (year, month + 3, dayOfMonth) else (year + 1, month - 9, dayOfMonth)

def epochDay : Nat := 719468

def timestamp (seconds : Nat) : String :=
  let (year, month, day) := civilDate (epochDay + seconds / 86400)
  let second := seconds % 86400
  padded 4 year ++ "-" ++ padded 2 month ++ "-" ++ padded 2 day ++ "T" ++
    padded 2 (second / 3600) ++ ":" ++ padded 2 (second / 60 % 60) ++ ":" ++
    padded 2 (second % 60) ++ "Z"

end BotTypings

import CiFront.Toml.Number
/-!
# TOML dates and times

A moment is a date, a time, or both with an optional offset. Months and days are those of the calendar;
a minute may have a leap second.
-/

namespace CiFront.Toml

open Text

/-- Takes a number of exactly `width` digits between two bounds. -/
def fixedNumber (width low high : Nat) : Scan Nat := do
  let ds ← Scan.count Char.isDigit width
  let n := (Decimal.nat? ds).getD 0
  if low ≤ n ∧ n ≤ high then pure n else failure

/-- The number of days in a month. -/
def daysInMonth (year month : Nat) : Nat :=
  if month = 2 then
    if year % 4 = 0 ∧ (year % 100 ≠ 0 ∨ year % 400 = 0) then 29 else 28
  else if month ∈ [4, 6, 9, 11] then 30
  else 31

/-- Takes a date of the calendar. -/
def date : Scan Unit := do
  let year ← fixedNumber 4 0 9999
  Scan.char '-'
  let month ← fixedNumber 2 1 12
  Scan.char '-'
  let _ ← fixedNumber 2 1 (daysInMonth year month)

/-- Takes a time of day. -/
def time : Scan Unit := do
  let _ ← fixedNumber 2 0 23
  Scan.char ':'
  let _ ← fixedNumber 2 0 59
  Scan.char ':'
  let _ ← fixedNumber 2 0 60
  let _ ← Scan.optional do
    Scan.char '.'
    Scan.takeWhile1 Char.isDigit

/-- Takes the offset of a time. -/
def offset : Scan Unit :=
  (do let _ ← Scan.satisfy fun c => c == 'Z' || c == 'z') <|> (do
    let _ ← Scan.satisfy fun c => c == '+' || c == '-'
    let _ ← fixedNumber 2 0 23
    Scan.char ':'
    let _ ← fixedNumber 2 0 59)

/-- Takes a date that a time may follow, or a time. -/
def moment : Scan Value := do
  let dateAndTime : Scan Unit := do
    date
    let _ ← Scan.optional do
      let _ ← Scan.satisfy fun c => c == 'T' || c == 't' || c == ' '
      time
      Scan.optional offset
  let (_, written) ← withText (dateAndTime <|> time)
  pure (.moment written)

end CiFront.Toml

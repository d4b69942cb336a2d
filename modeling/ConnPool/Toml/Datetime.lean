/-
  ConnPool.Toml.Datetime

  Dates and times: a date, a time, or both with perhaps an offset from UTC.
-/

import ConnPool.Toml.Text

namespace ConnPool
namespace Toml

open Reader

structure Date where
  year : Nat
  month : Nat
  day : Nat
  deriving DecidableEq

structure Time where
  hour : Nat
  minute : Nat
  second : Nat
  nanosecond : Nat
  deriving DecidableEq

/-- The distance of a local time from UTC. -/
inductive Offset where
  | utc
  | minutes (east : Int)
  deriving DecidableEq

/-- A point in time, as far as it is given. -/
inductive Datetime where
  | date (date : Date)
  | time (time : Time)
  | dateTime (date : Date) (time : Time) (offset : Option Offset)
  deriving DecidableEq

/-! ## Reading -/

/-- Whether a year has a 29th of February. -/
def isLeapYear (year : Nat) : Bool :=
  year % 4 == 0 && (year % 100 != 0 || year % 400 == 0)

/-- How many days a month has. -/
def daysInMonth (year month : Nat) : Nat :=
  match month with
  | 2 => if isLeapYear year then 29 else 28
  | 4 | 6 | 9 | 11 => 30
  | _ => 31

/-- A number of so many digits. -/
def number (width : Nat) : Reader Nat :=
  digitsValue 10 <$> times Char.isDigit width

/-- A number of two digits, within bounds. -/
def twoDigits (low high : Nat) : Reader Nat := do
  let n ← number 2
  guard (low ≤ n && n ≤ high)
  pure n

/-- A day that exists. -/
def date : Reader Date := do
  let year ← number 4
  char '-'
  let month ← twoDigits 1 12
  char '-'
  let day ← twoDigits 1 (daysInMonth year month)
  pure { year, month, day }

/-- A fraction of a second in nanoseconds; digits beyond the ninth are
    dropped. -/
def fraction : Reader Nat := do
  char '.'
  let digits := (← span1 Char.isDigit).take 9
  pure (digitsValue 10 digits * Nat.pow 10 (9 - digits.length))

/-- A time of day; the last minute may have a leap second. -/
def time : Reader Time := do
  let hour ← twoDigits 0 23
  char ':'
  let minute ← twoDigits 0 59
  char ':'
  let second ← twoDigits 0 60
  let nanosecond ← option fraction
  pure { hour, minute, second, nanosecond := nanosecond.getD 0 }

/-- The distance from UTC. -/
def offset : Reader Offset :=
  (do discard (satisfy fun c => c == 'Z' || c == 'z')
      pure .utc)
  <|>
  (do let sign ← satisfy fun c => c == '+' || c == '-'
      let hours ← twoDigits 0 23
      char ':'
      let minutes ← twoDigits 0 59
      let distance : Int := ↑(hours * 60 + minutes)
      pure (.minutes (if sign == '-' then -distance else distance)))

/-- The time that follows a date, after a `T` or a blank. -/
def timeOfDate : Reader (Time × Option Offset) := do
  discard (satisfy fun c => c == 'T' || c == 't' || c == ' ')
  let time ← time
  let offset ← option offset
  pure (time, offset)

/-- A date, a time, or both. -/
def datetime : Reader Datetime :=
  (do let date ← date
      match ← option timeOfDate with
      | some (time, offset) => pure (.dateTime date time offset)
      | none => pure (.date date))
  <|> (.time <$> time)

/-! ## Writing -/

/-- A number with zeros in front, to so many digits. -/
def padded (width n : Nat) : String :=
  String.ofList (List.replicate (width - n.repr.length) '0') ++ n.repr

def Date.text (d : Date) : String :=
  s!"{padded 4 d.year}-{padded 2 d.month}-{padded 2 d.day}"

/-- The fraction of a second with its point, without zeros at its end. -/
def fractionText (nanosecond : Nat) : String :=
  if nanosecond = 0 then ""
  else
    "." ++ String.ofList
      (((padded 9 nanosecond).toList.reverse.dropWhile (· == '0')).reverse)

def Time.text (t : Time) : String :=
  s!"{padded 2 t.hour}:{padded 2 t.minute}:{padded 2 t.second}" ++ fractionText t.nanosecond

def Offset.text : Offset → String
  | utc => "Z"
  | minutes east =>
    let sign := if east < 0 then "-" else "+"
    let distance := east.natAbs
    s!"{sign}{padded 2 (distance / 60)}:{padded 2 (distance % 60)}"

/-- The point in time as it is written in full. -/
def Datetime.text : Datetime → String
  | date d => d.text
  | time t => t.text
  | dateTime d t offset => d.text ++ "T" ++ t.text ++ (offset.map Offset.text).getD ""

end Toml
end ConnPool

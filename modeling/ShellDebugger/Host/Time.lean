/-!
# Times

Spans of time, and the time of a log record: a date of the Gregorian calendar and a time of day,
both in UTC and down to the microsecond. The latter is given as the microseconds since the start of
1970.
-/

namespace ShellDebugger

/-- A span of time in whole milliseconds. Spans have no greatest length here, and a deadline can be
any span away; on a clock whose times end, a deadline past its last time ends the program. -/
structure Duration where
  milliseconds : Nat
  deriving DecidableEq, Repr, Ord

namespace Duration

def ofSeconds (seconds : Nat) : Duration := ⟨seconds * 1000⟩

/-- Thousandths as the digits after a point, without the zeros at their end. -/
def fraction (thousandths : Nat) : List Char :=
  let digits := Nat.toDigits 10 (1000 + thousandths % 1000)
  (digits.drop 1).reverse.dropWhile (· == '0') |>.reverse

/-- A span in the largest unit that it fills: seconds, milliseconds, or nanoseconds if it is
nothing. -/
def text (d : Duration) : String :=
  if d.milliseconds = 0 then "0ns"
  else if d.milliseconds < 1000 then s!"{d.milliseconds}ms"
  else
    let digits := fraction d.milliseconds
    if digits.isEmpty then s!"{d.milliseconds / 1000}s"
    else s!"{d.milliseconds / 1000}.{String.ofList digits}s"

end Duration

namespace Log.Timestamp

def isLeap (year : Nat) : Bool :=
  year % 4 = 0 && (year % 100 != 0 || year % 400 = 0)

def monthLengths (year : Nat) : List Nat :=
  [31, if isLeap year then 29 else 28, 31, 30, 31, 30, 31, 31, 30, 31, 30, 31]

/-- The year of a day that is `days` after the start of a year, and the days since its start. The
number of years to go is bounded by the last argument. -/
def yearFrom (year days : Nat) : Nat → Nat × Nat
  | 0 => (year, days)
  | years + 1 =>
    let length := if isLeap year then 366 else 365
    if days < length then (year, days) else yearFrom (year + 1) (days - length) years

/-- The month of a day that is `days` after the start of a month, and the days since its start. -/
def monthFrom (month days : Nat) : List Nat → Nat × Nat
  | [] => (month, days)
  | length :: rest =>
    if days < length then (month, days) else monthFrom (month + 1) (days - length) rest

/-- A number with at least `width` digits. -/
def padded (width number : Nat) : String :=
  let digits := Nat.toDigits 10 number
  String.ofList (List.replicate (width - digits.length) '0' ++ digits)

/-- A date as year, month and day, given the days since the start of 1970. -/
def date (days : Nat) : String :=
  let (year, inYear) := yearFrom 1970 days (days / 365 + 1)
  let (month, inMonth) := monthFrom 1 inYear (monthLengths year)
  s!"{padded 4 year}-{padded 2 month}-{padded 2 (inMonth + 1)}"

def text (microseconds : Nat) : String :=
  let seconds := microseconds / 1000000
  let clock := ":".intercalate
    ([seconds / 3600 % 24, seconds / 60 % 60, seconds % 60].map (padded 2))
  s!"{date (seconds / 86400)}T{clock}.{padded 6 (microseconds % 1000000)}Z"

end Log.Timestamp
end ShellDebugger

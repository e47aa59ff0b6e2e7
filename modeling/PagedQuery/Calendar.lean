/-!
# PagedQuery.Calendar

Dates and times of the proleptic Gregorian calendar, and their ISO 8601 texts.
-/

namespace PagedQuery.Calendar

/-- The digits of `n`, with zeros in front up to `width` digits. -/
def padded (width n : Nat) : String :=
  let digits := Nat.toDigits 10 n
  String.ofList (List.replicate (width - digits.length) '0' ++ digits)

/-- A calendar day. -/
structure Date where
  year : Int
  month : Nat
  day : Nat
deriving DecidableEq, Repr

/-- Years have at least four digits, and a sign if they are outside 0 to 9999. -/
def yearText (year : Int) : String :=
  if year < 0 then "-" ++ padded 4 year.natAbs
  else if 9999 < year then "+" ++ padded 4 year.natAbs
  else padded 4 year.natAbs

def Date.text (d : Date) : String :=
  yearText d.year ++ "-" ++ padded 2 d.month ++ "-" ++ padded 2 d.day

/-- A time of day.  A leap second belongs to second 59 and has a billion nanoseconds or more. -/
structure Time where
  hour : Nat
  minute : Nat
  second : Nat
  nano : Nat
deriving DecidableEq, Repr

/-- The fraction of a second in groups of three digits, as many as it needs. -/
def fractionText (nano : Nat) : String :=
  if nano = 0 then ""
  else if nano % 1000000 = 0 then "." ++ padded 3 (nano / 1000000)
  else if nano % 1000 = 0 then "." ++ padded 6 (nano / 1000)
  else "." ++ padded 9 nano

def Time.text (t : Time) : String :=
  padded 2 t.hour ++ ":" ++ padded 2 t.minute ++ ":"
    ++ padded 2 (t.second + t.nano / 1000000000) ++ fractionText (t.nano % 1000000000)

/-- A date and a time of day, in no particular time zone. -/
structure DateTime where
  date : Date
  time : Time
deriving DecidableEq, Repr

def DateTime.text (t : DateTime) : String :=
  t.date.text ++ "T" ++ t.time.text

/-- A distance from Greenwich time to local time, in seconds east, as hours and minutes.  It
is rounded to the minute, a half away from zero, and keeps its sign even when it rounds to
zero. -/
def offsetText (seconds : Int) : String :=
  let minutes := (seconds.natAbs + 30) / 60
  (if seconds < 0 then "-" else "+") ++ padded 2 (minutes / 60) ++ ":" ++ padded 2 (minutes % 60)

/-- A local date and time with its distance from Greenwich time, in seconds east. -/
structure ZonedDateTime where
  local_ : DateTime
  offset : Int
deriving DecidableEq, Repr

def ZonedDateTime.text (t : ZonedDateTime) : String :=
  t.local_.text ++ offsetText t.offset

end PagedQuery.Calendar

/-!
# Dates and times

Dates, times of day and their combinations, with two spellings: the standard one, and one that says
how the value is built from its parts.
-/

namespace CallCompletion.Data

structure Date where
  year : Nat
  month : Nat
  day : Nat
  deriving DecidableEq, Repr, Inhabited

structure TimeOfDay where
  hour : Nat
  minute : Nat
  second : Nat
  microsecond : Nat
  deriving DecidableEq, Repr, Inhabited

/-- A date, a time, or both, then with the minutes by which it is ahead of universal time if this is
known. -/
inductive Moment where
  | date (date : Date)
  | time (time : TimeOfDay)
  | dateTime (date : Date) (time : TimeOfDay) (offset : Option Int)
  deriving DecidableEq, Repr, Inhabited

/-! ## The calendar -/

def isLeapYear (year : Nat) : Bool := year % 4 == 0 && (year % 100 != 0 || year % 400 == 0)

def daysInMonth (year month : Nat) : Nat :=
  if month = 2 then if isLeapYear year then 29 else 28
  else if month = 4 || month = 6 || month = 9 || month = 11 then 30
  else 31

/-- A day that exists; the calendar starts with year one. -/
def Date.isValid (d : Date) : Bool :=
  1 ≤ d.year && d.year ≤ 9999 && 1 ≤ d.month && d.month ≤ 12 && 1 ≤ d.day &&
    d.day ≤ daysInMonth d.year d.month

/-! ## The standard spelling -/

def zeroPadded (width n : Nat) : String :=
  let ds := (toString n).toList
  String.ofList (List.replicate (width - ds.length) '0' ++ ds)

def Date.standard (d : Date) : String :=
  zeroPadded 4 d.year ++ "-" ++ zeroPadded 2 d.month ++ "-" ++ zeroPadded 2 d.day

/-- A time to the second, or to the microsecond if it has a fraction. -/
def TimeOfDay.standard (t : TimeOfDay) : String :=
  zeroPadded 2 t.hour ++ ":" ++ zeroPadded 2 t.minute ++ ":" ++ zeroPadded 2 t.second ++
    if t.microsecond = 0 then "" else "." ++ zeroPadded 6 t.microsecond

/-- The distance from universal time in hours and minutes. -/
def offsetText (minutes : Int) : String :=
  (if minutes < 0 then "-" else "+") ++ zeroPadded 2 (minutes.natAbs / 60) ++ ":" ++
    zeroPadded 2 (minutes.natAbs % 60)

/-- The standard spelling, with the given separator between date and time. -/
def Moment.standard (separator : String) : Moment → String
  | .date d => d.standard
  | .time t => t.standard
  | .dateTime d t offset =>
    d.standard ++ separator ++ t.standard ++ (offset.map offsetText).getD ""

/-! ## The spelling by parts -/

def numbersText (ns : List Nat) : String := ", ".intercalate (ns.map toString)

/-- The parts of a time that are written: seconds and their fraction only if they are needed. -/
def TimeOfDay.parts (t : TimeOfDay) : List Nat :=
  if t.microsecond ≠ 0 then [t.hour, t.minute, t.second, t.microsecond]
  else if t.second ≠ 0 then [t.hour, t.minute, t.second]
  else [t.hour, t.minute]

/-- A distance from universal time as a duration of days and seconds, of which only the days can be
negative. -/
def offsetParts (minutes : Int) : String :=
  if minutes = 0 then "datetime.timezone.utc"
  else
    let duration :=
      if minutes < 0 then "days=-1, seconds=" ++ toString ((minutes + 1440) * 60)
      else "seconds=" ++ toString (minutes * 60)
    "datetime.timezone(datetime.timedelta(" ++ duration ++ "))"

def Moment.byParts : Moment → String
  | .date d => "datetime.date(" ++ numbersText [d.year, d.month, d.day] ++ ")"
  | .time t => "datetime.time(" ++ numbersText t.parts ++ ")"
  | .dateTime d t offset =>
    "datetime.datetime(" ++ numbersText ([d.year, d.month, d.day] ++ t.parts) ++
      ((offset.map fun minutes ↦ ", tzinfo=" ++ offsetParts minutes).getD "") ++ ")"

end CallCompletion.Data

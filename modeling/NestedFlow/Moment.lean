/-! Dates, times of day, and both together.

A moment has its calendar fields, down to microseconds; a date with a time may say how far its clock is from standard
time, in minutes. Documents have it in the form for data exchange, messages by its fields.
-/

set_option autoImplicit false

namespace NestedFlow

structure Date where
  year : Nat
  month : Nat
  day : Nat
  deriving DecidableEq, Inhabited

structure Clock where
  hour : Nat
  minute : Nat
  second : Nat
  micro : Nat
  deriving DecidableEq, Inhabited

inductive Moment where
  | date (date : Date)
  | clock (clock : Clock)
  | both (date : Date) (clock : Clock) (offset : Option Int)
  deriving DecidableEq, Inhabited

/-- A number in at least so many digits. -/
def padded (width n : Nat) : String :=
  let digits := toString n
  "".pushn '0' (width - digits.length) ++ digits

namespace Date

def isLeap (year : Nat) : Bool := (year % 4 = 0 && year % 100 != 0) || year % 400 = 0

def daysIn (year month : Nat) : Nat :=
  if month = 2 then if isLeap year then 29 else 28 else if month ∈ [4, 6, 9, 11] then 30 else 31

/-- Whether the calendar has the day. -/
def inCalendar (date : Date) : Bool :=
  1 ≤ date.year && 1 ≤ date.month && date.month ≤ 12 && 1 ≤ date.day && date.day ≤ daysIn date.year date.month

def text (date : Date) : String :=
  padded 4 date.year ++ "-" ++ padded 2 date.month ++ "-" ++ padded 2 date.day

def parts (date : Date) : List String := [date.year, date.month, date.day].map toString

end Date

namespace Clock

/-- A fraction has six digits, and is absent if it is zero. -/
def text (clock : Clock) : String :=
  padded 2 clock.hour ++ ":" ++ padded 2 clock.minute ++ ":" ++ padded 2 clock.second ++
    (if clock.micro = 0 then "" else "." ++ padded 6 clock.micro)

/-- Hour and minute, and what follows up to the last part that is not zero. -/
def parts (clock : Clock) : List String :=
  let seconds := if clock.micro = 0 then if clock.second = 0 then [] else [clock.second] else [clock.second, clock.micro]
  (clock.hour :: clock.minute :: seconds).map toString

end Clock

namespace Moment

/-- The distance from standard time: a letter for none at all, else hours and minutes. -/
def offsetText (offset : Int) : String :=
  if offset = 0 then "Z"
  else (if offset < 0 then "-" else "+") ++ padded 2 (offset.natAbs / 60) ++ ":" ++ padded 2 (offset.natAbs % 60)

/-- The form for data exchange. -/
def text : Moment → String
  | .date day => day.text
  | .clock time => time.text
  | .both day time offset => day.text ++ "T" ++ time.text ++ (offset.map offsetText).getD ""

/-- A distance by its whole days, rounded down, and the seconds beyond them. -/
def zoneDisplay (offset : Int) : String :=
  if offset = 0 then "datetime.timezone.utc"
  else
    let days := if offset < 0 then "days=-1, " else ""
    "datetime.timezone(datetime.timedelta(" ++ days ++ "seconds=" ++ toString (offset * 60 % 86400) ++ "))"

def call (name : String) (parts : List String) : String := "datetime." ++ name ++ "(" ++ ", ".intercalate parts ++ ")"

/-- The form shown in messages. -/
def display : Moment → String
  | .date day => call "date" day.parts
  | .clock time => call "time" time.parts
  | .both day time offset =>
    call "datetime" (day.parts ++ time.parts ++ (offset.map fun offset => "tzinfo=" ++ zoneDisplay offset).toList)

/-- The name of the kind of a moment. -/
def kindName : Moment → String
  | .date _ => "date"
  | .clock _ => "time"
  | .both _ _ _ => "datetime"

end Moment

end NestedFlow

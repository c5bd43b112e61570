/-!
# Dates and times of day

The dates and times that a configuration file can hold.  None of the settings accepts one, so all
that is done with them is to check that they exist in the calendar and to show them.

* `Moment` — a date, a time of day, or both, the latter with an optional distance from universal
  time in minutes.
* `Moment.text` — a moment as it reads in a sentence.
* `Moment.shown` — a moment as it reads inside a list.
-/

set_option autoImplicit false

namespace ComponentCensus
namespace Settings

/-- A calendar date. -/
structure Date where
  year : Nat
  month : Nat
  day : Nat
deriving Repr, DecidableEq, Inhabited

/-- A time of day. -/
structure TimeOfDay where
  hour : Nat
  minute : Nat
  second : Nat
  microsecond : Nat
deriving Repr, DecidableEq, Inhabited

/-- A date, a time of day, or both. -/
inductive Moment where
  | date (d : Date)
  | time (t : TimeOfDay)
  | dateTime (d : Date) (t : TimeOfDay) (offset : Option Int)
deriving Repr, DecidableEq, Inhabited

/-- Whether a year has a leap day. -/
def isLeapYear (y : Nat) : Bool := y % 4 = 0 && (y % 100 ≠ 0 || y % 400 = 0)

/-- The number of days of a month. -/
def daysOfMonth (y m : Nat) : Nat :=
  if m = 2 then (if isLeapYear y then 29 else 28)
  else if m = 4 || m = 6 || m = 9 || m = 11 then 30
  else 31

/-- Whether the date is one of the calendar, which starts with the year one. -/
def Date.isValid (d : Date) : Bool :=
  1 ≤ d.year && 1 ≤ d.month && d.month ≤ 12 && 1 ≤ d.day && d.day ≤ daysOfMonth d.year d.month

/-- A number written with leading zeros. -/
def padded (width n : Nat) : String :=
  let digits := toString n
  String.ofList (List.replicate (width - digits.length) '0') ++ digits

/-- A date as it reads in a sentence. -/
def Date.text (d : Date) : String :=
  padded 4 d.year ++ "-" ++ padded 2 d.month ++ "-" ++ padded 2 d.day

/-- A time of day as it reads in a sentence; microseconds are left out if there are none. -/
def TimeOfDay.text (t : TimeOfDay) : String :=
  padded 2 t.hour ++ ":" ++ padded 2 t.minute ++ ":" ++ padded 2 t.second ++
    if t.microsecond = 0 then "" else "." ++ padded 6 t.microsecond

/-- A distance from universal time as it reads in a sentence. -/
def offsetText (minutes : Int) : String :=
  (if minutes < 0 then "-" else "+") ++ padded 2 (minutes.natAbs / 60) ++ ":" ++
    padded 2 (minutes.natAbs % 60)

/-- A moment as it reads in a sentence. -/
def Moment.text : Moment → String
  | date d => d.text
  | time t => t.text
  | dateTime d t offset => d.text ++ " " ++ t.text ++ (offset.map offsetText).getD ""

/-- The numbers of a time of day, without trailing seconds and microseconds that are zero. -/
def TimeOfDay.numbers (t : TimeOfDay) : List Nat :=
  if t.microsecond ≠ 0 then [t.hour, t.minute, t.second, t.microsecond]
  else if t.second ≠ 0 then [t.hour, t.minute, t.second]
  else [t.hour, t.minute]

/-- The numbers of a date. -/
def Date.numbers (d : Date) : List Nat := [d.year, d.month, d.day]

/-- Numbers between commas. -/
def listed (ns : List Nat) : String := String.intercalate ", " (ns.map toString)

/-- A distance from universal time as it reads inside a list: whole days and the seconds that
remain. -/
def offsetShown (minutes : Int) : String :=
  if minutes = 0 then "datetime.timezone.utc"
  else
    let days := if minutes < 0 then "days=-1, " else ""
    let seconds := (minutes % 1440) * 60
    "datetime.timezone(datetime.timedelta(" ++ days ++ "seconds=" ++ toString seconds ++ "))"

/-- The name of the kind of a moment. -/
def Moment.kind : Moment → String
  | date _ => "datetime.date"
  | time _ => "datetime.time"
  | dateTime _ _ _ => "datetime.datetime"

/-- A moment as it reads inside a list. -/
def Moment.shown (m : Moment) : String :=
  m.kind ++ "(" ++
    (match m with
      | date d => listed d.numbers
      | time t => listed t.numbers
      | dateTime d t offset =>
        listed (d.numbers ++ t.numbers) ++
          (offset.map fun o => ", tzinfo=" ++ offsetShown o).getD "") ++ ")"

end Settings
end ComponentCensus

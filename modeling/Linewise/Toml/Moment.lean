/-
Dates and times as documents write them, and their two written forms: the standard one, and the one that messages use.
-/
import Linewise.Text.Quoted

namespace Linewise

/-- a day -/
structure Day where
  year : Nat
  month : Nat
  day : Nat
deriving DecidableEq, Repr, Inhabited

/-- a time of day -/
structure Clock where
  hour : Nat
  minute : Nat
  second : Nat
  microsecond : Nat
deriving DecidableEq, Repr, Inhabited

/-- the distance from universal time -/
inductive Zone where
  | universal
  /-- an offset with the mark written before it -/
  | offset (mark : Char) (hours minutes : Nat)
deriving DecidableEq, Repr, Inhabited

/-- a date, a time of day, or both -/
inductive Moment where
  | date (day : Day)
  | time (clock : Clock)
  | dateTime (day : Day) (clock : Clock) (zone : Option Zone)
deriving DecidableEq, Repr, Inhabited

/-- a number in at least `width` decimal digits -/
def padded (width n : Nat) : Text :=
  let digits := Text.ofNat n
  List.replicate (width - digits.length) '0' ++ digits

/-- how many days a month has -/
def daysIn (year month : Nat) : Nat :=
  if month = 2 then
    if year % 4 = 0 && (year % 100 != 0 || year % 400 = 0) then 29 else 28
  else if month = 4 || month = 6 || month = 9 || month = 11 then 30
  else 31

def Day.valid (d : Day) : Bool :=
  1 ≤ d.year && d.year ≤ 9999 && 1 ≤ d.month && d.month ≤ 12 && 1 ≤ d.day && d.day ≤ daysIn d.year d.month

def Clock.valid (c : Clock) : Bool := c.hour ≤ 23 && c.minute ≤ 59 && c.second ≤ 59 && c.microsecond ≤ 999999

/-- the day in standard form -/
def Day.render (d : Day) : Text := padded 4 d.year ++ "-" ++ padded 2 d.month ++ "-" ++ padded 2 d.day

/-- the time in standard form; a fraction has six digits, and is left out if it is zero -/
def Clock.render (c : Clock) : Text :=
  let fraction : Text := if c.microsecond = 0 then [] else "." ++ padded 6 c.microsecond
  padded 2 c.hour ++ ":" ++ padded 2 c.minute ++ ":" ++ padded 2 c.second ++ fraction

namespace Zone

/-- what may stand before an offset: a minus for a place behind universal time; a bar counts as a plus -/
def isMark (c : Char) : Bool := c == '+' || c == '-' || c == '|'

/-- the distance in seconds -/
def seconds : Zone → Int
  | .universal => 0
  | .offset mark hours minutes =>
    let n : Int := hours * 3600 + minutes * 60
    if mark = '-' then -n else n

/-- the name of an offset, as written -/
def name : Zone → Text
  | .universal => "UTC"
  | .offset mark hours minutes => mark :: padded 2 hours ++ ":" ++ padded 2 minutes

/-- the zone in standard form -/
def render (z : Zone) : Text :=
  let n := z.seconds.natAbs / 60
  (if z.seconds < 0 then "-" else "+") ++ padded 2 (n / 60) ++ ":" ++ padded 2 (n % 60)

/-- the distance as messages show it: whole days down, and seconds -/
def shownDistance (z : Zone) : Text :=
  let s := z.seconds
  if s = 0 then "datetime.timedelta(0)"
  else if s < 0 then "datetime.timedelta(days=-1, seconds=" ++ Text.ofInt (86400 + s) ++ ")"
  else "datetime.timedelta(seconds=" ++ Text.ofInt s ++ ")"

/-- the zone as messages show it -/
def shown (z : Zone) : Text :=
  "datetime.timezone(" ++ z.shownDistance ++ ", " ++ z.name.quoted ++ ")"

end Zone

/-- the parts of a time as messages show them: zero seconds and fractions at the end are left out -/
def Clock.shownParts (c : Clock) : List Nat :=
  if c.microsecond ≠ 0 then [c.hour, c.minute, c.second, c.microsecond]
  else if c.second ≠ 0 then [c.hour, c.minute, c.second]
  else [c.hour, c.minute]

namespace Moment

/-- the moment in standard form -/
def render : Moment → Text
  | .date d => d.render
  | .time c => c.render
  | .dateTime d c z => d.render ++ "T" ++ c.render ++ (z.map Zone.render).getD []

/-- the moment as messages show it -/
def shown : Moment → Text
  | .date d => "datetime.date(" ++ Text.join ", " ([d.year, d.month, d.day].map Text.ofNat) ++ ")"
  | .time c => "datetime.time(" ++ Text.join ", " (c.shownParts.map Text.ofNat) ++ ")"
  | .dateTime d c z =>
    let zone : Text := match z with
      | none => []
      | some zone => ", tzinfo=" ++ zone.shown
    "datetime.datetime(" ++ Text.join ", " (([d.year, d.month, d.day] ++ c.shownParts).map Text.ofNat) ++ zone ++ ")"

/-- the name of the kind of value -/
def typeName : Moment → Text
  | .date _ => "date"
  | .time _ => "time"
  | .dateTime .. => "datetime"

end Moment

end Linewise

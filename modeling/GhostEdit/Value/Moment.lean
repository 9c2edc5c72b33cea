import GhostEdit.Text.Basic

/-!
# Dates and times

A configuration document can name a day, a time of day, or a day with a time that may be given
with its offset from universal time.

## Main definitions

* `Moment`, `Moment.kind`
* `Moment.shown`, `Moment.display`: a moment in running text, and as messages show it
-/

namespace GhostEdit

/-- A day of the calendar. -/
structure Day where
  year : Nat
  month : Nat
  day : Nat
deriving DecidableEq, Inhabited

/-- A time of day. -/
structure DayTime where
  hour : Nat
  minute : Nat
  second : Nat
  micros : Nat
deriving DecidableEq, Inhabited

/-- A date, a time, or both. -/
inductive Moment where
  | day (d : Day)
  | time (t : DayTime)
  /-- A day and a time, with the offset from universal time in minutes if there is one. -/
  | stamp (d : Day) (t : DayTime) (offset : Option Int)
deriving DecidableEq, Inhabited

/-- A number with at least `width` digits. -/
def padded (width n : Nat) : String :=
  let digits := Nat.toDigits 10 n
  String.ofList (List.replicate (width - digits.length) '0' ++ digits)

namespace Day

/-- A day in running text. -/
def shown (d : Day) : String :=
  let (year, month, day) := (padded 4 d.year, padded 2 d.month, padded 2 d.day)
  s!"{year}-{month}-{day}"

/-- The numbers of a day. -/
def numbers (d : Day) : List String := [toString d.year, toString d.month, toString d.day]

end Day

namespace DayTime

/-- A time of day in running text. -/
def shown (t : DayTime) : String :=
  let (hour, minute, second) := (padded 2 t.hour, padded 2 t.minute, padded 2 t.second)
  let fraction := if t.micros = 0 then "" else "." ++ padded 6 t.micros
  s!"{hour}:{minute}:{second}{fraction}"

/-- The numbers of a time of day, without those at the end that are zero beyond the minute. -/
def numbers (t : DayTime) : List String :=
  [toString t.hour, toString t.minute] ++
    if t.micros ≠ 0 then [toString t.second, toString t.micros]
    else if t.second ≠ 0 then [toString t.second]
    else []

end DayTime

namespace Moment

/-- The name of the kind of a moment. -/
def kind : Moment → String
  | .day _ => "datetime.date"
  | .time _ => "datetime.time"
  | .stamp _ _ _ => "datetime.datetime"

/-- An offset from universal time in running text. -/
def offsetShown (minutes : Int) : String :=
  let sign := if minutes < 0 then "-" else "+"
  let (hour, minute) := (padded 2 (minutes.natAbs / 60), padded 2 (minutes.natAbs % 60))
  s!"{sign}{hour}:{minute}"

/-- A moment in running text. -/
def shown : Moment → String
  | .day d => d.shown
  | .time t => t.shown
  | .stamp d t offset =>
    let zone := (offset.map offsetShown).getD ""
    s!"{d.shown} {t.shown}{zone}"

/-- An offset as messages show it: as whole days and the seconds beyond them. -/
def offsetDisplay (minutes : Int) : String :=
  let days := minutes * 60 / 86400
  let seconds := minutes * 60 % 86400
  let parts :=
    (if days = 0 then [] else [s!"days={days}"]) ++
      if seconds = 0 then [] else [s!"seconds={seconds}"]
  let inner := ", ".intercalate parts
  if minutes = 0 then "datetime.timezone.utc"
  else s!"datetime.timezone(datetime.timedelta({inner}))"

/-- A moment as messages show it. -/
def display (m : Moment) : String :=
  let parts := match m with
    | .day d => d.numbers
    | .time t => t.numbers
    | .stamp d t offset =>
      d.numbers ++ t.numbers ++ offset.toList.map fun o => "tzinfo=" ++ offsetDisplay o
  let inner := ", ".intercalate parts
  s!"{m.kind}({inner})"

end Moment

end GhostEdit

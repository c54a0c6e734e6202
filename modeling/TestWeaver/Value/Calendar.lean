/-!
Dates and times of day. A moment with a known offset from the meridian is one instant however it is written; without
an offset it is only the reading of a clock.
-/
namespace TestWeaver

structure Date where
  year : Nat
  month : Nat
  day : Nat
  deriving DecidableEq, Repr

/-- A date with a time of day; `offset` is in seconds, east of the meridian. -/
structure Moment where
  date : Date
  hour : Nat
  minute : Nat
  second : Nat
  microsecond : Nat
  offset : Option Int
  deriving DecidableEq, Repr

namespace Date

def isLeap (year : Nat) : Bool := year % 4 = 0 && (year % 100 != 0 || year % 400 = 0)

def daysIn (year month : Nat) : Nat :=
  if month = 2 then (if isLeap year then 29 else 28)
  else if month = 4 || month = 6 || month = 9 || month = 11 then 30
  else 31

def daysBefore (year month : Nat) : Nat := ((List.range month).drop 1).foldl (fun n m => n + daysIn year m) 0

def dayNumber (d : Date) : Nat :=
  let years := d.year - 1
  365 * years + years / 4 - years / 100 + years / 400 + daysBefore d.year d.month + d.day

end Date

namespace Moment

def instant (m : Moment) (offset : Int) : Int :=
  let seconds : Int := 86400 * m.date.dayNumber + 3600 * m.hour + 60 * m.minute + m.second
  (seconds - offset) * 1000000 + m.microsecond

def isSame (m n : Moment) : Bool :=
  match m.offset, n.offset with
  | some a, some b => m.instant a == n.instant b
  | none, none => m == n
  | _, _ => false

end Moment

end TestWeaver

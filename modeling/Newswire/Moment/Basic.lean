import Newswire.Moment.Calendar

/-!
Moments: a day, a time of day to the microsecond, and possibly the distance from universal time.
Two moments that both know their distance are compared as instants, two that both do not as they
stand on the wall; one of each kind cannot be compared.
-/

namespace Newswire

structure Date where
  year : Nat
  month : Nat
  day : Nat
  valid : (1 ≤ year ∧ year ≤ 9999) ∧ (1 ≤ month ∧ month ≤ 12) ∧
    (1 ≤ day ∧ day ≤ monthLength year month)
deriving DecidableEq

structure Clock where
  hour : Nat
  minute : Nat
  second : Nat
  micro : Nat
  valid : hour < 24 ∧ minute < 60 ∧ second < 60 ∧ micro < 1000000
deriving DecidableEq

def microsPerDay : Int := 86400000000

/-- A distance from universal time, less than a day to either side. -/
structure Offset where
  micros : Int
  valid : -86400000000 < micros ∧ micros < 86400000000
deriving DecidableEq

def Offset.utc : Offset := ⟨0, by decide⟩

/-- A day and a time of day; without an offset it is not known where. -/
structure Moment where
  date : Date
  clock : Clock
  offset : Option Offset
deriving DecidableEq

inductive Moment.Error where
  | malformed (text : String)
  | offsetOutOfRange (micros : Int)
  | yearOutOfRange (year : Nat)
  | monthOutOfRange
  | dayOutOfRange
  | hourOutOfRange
  | minuteOutOfRange
  | secondOutOfRange
  | incomparable
deriving DecidableEq

namespace Moment

def wall (m : Moment) : Int :=
  (dayNumber m.date.year m.date.month m.date.day * microsPerDay) +
    (((m.clock.hour * 60 + m.clock.minute) * 60 + m.clock.second) * 1000000 + m.clock.micro : Nat)

/-- The same instant in universal time; a moment without an offset is taken as it stands. -/
def instant (m : Moment) : Int :=
  m.wall - (m.offset.map Offset.micros).getD 0

def Comparable (a b : Moment) : Prop :=
  a.offset.isSome = b.offset.isSome

instance (a b : Moment) : Decidable (Comparable a b) :=
  inferInstanceAs (Decidable (_ = _))

/-- Is `a` later than `b`? -/
def later? (a b : Moment) : Except Error Bool :=
  if Comparable a b then .ok (b.instant < a.instant) else .error .incomparable

def same (a b : Moment) : Bool :=
  decide (Comparable a b) && a.instant == b.instant

/-- A day from its three numbers; the first that is out of its range is the one refused. -/
def makeDate (year month day : Nat) : Except Error Date :=
  if hy : 1 ≤ year ∧ year ≤ 9999 then
    if hm : 1 ≤ month ∧ month ≤ 12 then
      if hd : 1 ≤ day ∧ day ≤ monthLength year month then .ok ⟨year, month, day, hy, hm, hd⟩
      else .error .dayOutOfRange
    else .error .monthOutOfRange
  else .error (.yearOutOfRange year)

def makeClock (hour minute second micro : Nat) : Except Error Clock :=
  if hh : hour < 24 then
    if hm : minute < 60 then
      if hs : second < 60 ∧ micro < 1000000 then .ok ⟨hour, minute, second, micro, hh, hm, hs⟩
      else .error .secondOutOfRange
    else .error .minuteOutOfRange
  else .error .hourOutOfRange

def makeOffset (micros : Int) : Except Error Offset :=
  if h : -86400000000 < micros ∧ micros < 86400000000 then .ok ⟨micros, h⟩
  else .error (.offsetOutOfRange micros)

def utc? (year month day hour minute second : Nat) : Option Moment :=
  match makeDate year month day, makeClock hour minute second 0 with
  | .ok d, .ok c => some ⟨d, c, some .utc⟩
  | _, _ => none

end Moment

end Newswire

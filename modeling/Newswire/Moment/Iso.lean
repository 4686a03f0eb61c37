import Newswire.Moment.Basic
import Newswire.Text.Digit
import Newswire.Text.Quoted

/-!
The written form of moments after ISO 8601. Writing uses the extended form with a `T`; reading also
takes the basic form, week dates, any one character between day and time, and leaves out digits
after the sixth of a fraction.
-/

namespace Newswire.Moment

open Newswire.Text

/-! ### Writing -/

def isoMicros (micros : Nat) : String :=
  if micros = 0 then "" else "." ++ padded 6 micros

def isoOffset (o : Offset) : String :=
  let micros := o.micros.natAbs
  let seconds := micros / 1000000
  (if o.micros < 0 then "-" else "+") ++ padded 2 (seconds / 3600) ++ ":" ++
    padded 2 (seconds / 60 % 60) ++
    (if micros % 60000000 = 0 then ""
     else ":" ++ padded 2 (seconds % 60) ++ isoMicros (micros % 1000000))

def iso (m : Moment) : String :=
  padded 4 m.date.year ++ "-" ++ padded 2 m.date.month ++ "-" ++ padded 2 m.date.day ++ "T" ++
    padded 2 m.clock.hour ++ ":" ++ padded 2 m.clock.minute ++ ":" ++ padded 2 m.clock.second ++
    isoMicros m.clock.micro ++ (m.offset.map isoOffset).getD ""

/-- Day, hour and minute as a reader of the news sees them; the year has no noughts before it. -/
def short (m : Moment) : String :=
  toString m.date.year ++ "-" ++ padded 2 m.date.month ++ "-" ++ padded 2 m.date.day ++ " " ++
    padded 2 m.clock.hour ++ ":" ++ padded 2 m.clock.minute

/-! ### Reading -/

def takeNumber? (n : Nat) (cs : List Char) : Option (Nat × List Char) :=
  if (cs.take n).length = n then (number? (cs.take n)).map (·, cs.drop n) else none

def isDigit (c : Char) : Bool :=
  (digitValue? c).isSome

/-- Where the day ends. The character after it is free, so the form of the day is told by its fifth
and sixth characters; of a week in the basic form, by how many digits follow. -/
def dayEnd? (cs : List Char) : Option Nat :=
  if cs.length = 7 then some 7
  else if cs[4]? = some '-' then
    if cs[5]? ≠ some 'W' then some 10
    else if cs[8]? ≠ some '-' then some 8
    else if cs.length = 9 then none
    else if (cs[10]?.map isDigit).getD false then some 8
    else some 10
  else if cs[4]? ≠ some 'W' then some 8
  else
    let stop := 7 + ((cs.drop 7).takeWhile isDigit).length
    if stop < 9 then some stop
    else if stop % 2 = 0 then some 7
    else some 8

def afterHyphen? (extended : Bool) (cs : List Char) : Option (List Char) :=
  if !extended then some cs
  else match cs with
    | '-' :: rest => some rest
    | _ => none

/-- Year, month and day of a text whose day takes `width` characters (none: unknown). -/
def readDay? (width : Option Nat) (cs : List Char) : Option (Nat × Nat × Nat) := do
  let (year, rest) ← takeNumber? 4 cs
  let extended := rest.head? == some '-'
  match ← afterHyphen? extended rest with
  | 'W' :: rest =>
    let (week, rest) ← takeNumber? 2 rest
    let passed := if extended then 8 else 7
    if (width.map (decide <| passed < ·)).getD true then
      let (weekday, _) ← takeNumber? 1 (← afterHyphen? extended rest)
      ofWeek? year week weekday
    else
      ofWeek? year week 1
  | rest =>
    let (month, rest) ← takeNumber? 2 rest
    let (day, _) ← takeNumber? 2 (← afterHyphen? extended rest)
    pure (year, month, day)

structure ReadClock where
  hour : Nat
  minute : Nat
  second : Nat
  micro : Nat
  more : Bool
deriving DecidableEq

def ReadClock.ofUnits (units : List Nat) (micro : Nat) (more : Bool) : ReadClock :=
  ⟨units.getD 0 0, units.getD 1 0, units.getD 2 0, micro, more⟩

/-- Does a character stand here? A NUL ends a text. -/
def stands : Option Char → Bool
  | none => false
  | some c => c != '\x00'

/-- The fraction: its first six digits count. -/
def readFraction? (next : Option Char) (units : List Nat) (cs : List Char) : Option ReadClock := do
  let width := min cs.length 6
  let (n, rest) ← takeNumber? width cs
  let rest := rest.dropWhile isDigit
  pure (.ofUnits units (n * Nat.pow 10 (6 - width)) (stands (rest.head?.or next)))

/-- Read `left + 1` more units of two digits. With a colon after the first, every further unit
needs one. A fraction may follow any unit, after a point or a comma; after the last unit its
digits may also stand where a further unit would. One character of ASCII at the end is left for
the caller to refuse. -/
def readUnits? (next : Option Char) : (left : Nat) → (colons : Bool) → (units : List Nat) →
    List Char → Option ReadClock
  | left, colons, units, cs => do
    let (n, rest) ← takeNumber? 2 cs
    let units := units ++ [n]
    match rest with
    | [] => pure (.ofUnits units 0 (stands next))
    | c :: rest =>
      let colons := if units.length = 1 then c == ':' else colons
      if rest.isEmpty && c.toNat < 0x80 then pure (.ofUnits units 0 (stands (some c)))
      else if colons && c == ':' then
        match left with
        | 0 => readFraction? next units rest
        | left + 1 => readUnits? next left colons units rest
      else if c == '.' || c == ',' then readFraction? next units rest
      else if !colons then
        match left with
        | 0 => readFraction? next units (c :: rest)
        | left + 1 => readUnits? next left colons units (c :: rest)
      else none

def readClock? (next : Option Char) (cs : List Char) : Option ReadClock :=
  readUnits? next 2 true [] cs

def beginsOffset (c : Char) : Bool :=
  c == '+' || c == '-' || c == 'Z'

/-- The microseconds of an offset. One of no whole second is universal time, whatever its
fraction. -/
def readOffset? : List Char → Option Int
  | 'Z' :: rest => if stands rest.head? then none else some 0
  | sign :: rest => do
    let c ← readClock? none rest
    if c.more then none
    else
      let seconds := (c.hour * 60 + c.minute) * 60 + c.second
      let micros : Int := if seconds = 0 then 0 else (seconds * 1000000 + c.micro : Nat)
      pure (if sign == '-' then -micros else micros)
  | [] => none

def readTime? (cs : List Char) : Option (ReadClock × Option Int) := do
  let body := cs.takeWhile (!beginsOffset ·)
  let zone := cs.dropWhile (!beginsOffset ·)
  let c ← readClock? zone.head? body
  if zone.isEmpty then
    if c.more then none else pure (c, none)
  else
    pure (c, some (← readOffset? zone))

def readRest? : List Char → Option (ReadClock × Option Int)
  | [] => some (.ofUnits [] 0 false, none)
  | _ :: cs => readTime? cs

def dayEnds : List Nat := [7, 8, 10]

/-- The characters that a text is read by. The first half of a surrogate pair at a place where a day
may end parts day and time like a `T`; a text with any other half cannot be read. -/
def readable? (text : String) : Option (List Char) :=
  let ns := codes text
  let ns := match dayEnds.find? fun i => (ns[i]?.map isHalf).getD false with
    | some i => ns.set i 'T'.toNat
    | none => ns
  if ns.any isHalf then none else some (ns.map Char.ofNat)

def readNumbers? (text : String) : Option ((Nat × Nat × Nat) × ReadClock × Option Int) := do
  let cs ← readable? text
  if cs.length < 7 then none
  else
    let width := dayEnd? cs
    let day ← readDay? width cs
    let (clock, offset) ← readRest? (cs.drop (width.getD cs.length))
    pure (day, clock, offset)

/-- Read a moment: first its form is checked, then the offset, then the numbers in their order. -/
def read (text : String) : Except Error Moment :=
  match readNumbers? text with
  | none => .error (.malformed text)
  | some ((year, month, day), clock, micros) => do
    let offset ← micros.mapM makeOffset
    let date ← makeDate year month day
    let clock ← makeClock clock.hour clock.minute clock.second clock.micro
    pure ⟨date, clock, offset⟩

/-! ### Errors -/

def spanText (micros : Int) : String :=
  let days := micros.fdiv microsPerDay
  let rest := micros.fmod microsPerDay
  let parts := [("days", days), ("seconds", rest / 1000000), ("microseconds", rest % 1000000)]
  let shown := (parts.filter (·.2 != 0)).map fun p => p.1 ++ "=" ++ toString p.2
  "datetime.timedelta(" ++ (if shown.isEmpty then "0" else ", ".intercalate shown) ++ ")"

def Error.message : Error → String
  | .malformed text => "Invalid isoformat string: " ++ quoted text
  | .offsetOutOfRange micros =>
    "offset must be a timedelta strictly between -timedelta(hours=24) and timedelta(hours=24), not "
      ++ spanText micros ++ "."
  | .yearOutOfRange year => "year " ++ toString year ++ " is out of range"
  | .monthOutOfRange => "month must be in 1..12"
  | .dayOutOfRange => "day is out of range for month"
  | .hourOutOfRange => "hour must be in 0..23"
  | .minuteOutOfRange => "minute must be in 0..59"
  | .secondOutOfRange => "second must be in 0..59"
  | .incomparable => "can't compare offset-naive and offset-aware datetimes"

end Newswire.Moment

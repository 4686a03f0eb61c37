import Newswire.Text.Blank
import Newswire.Text.Digit

/-!
Reading a double from text: an optional sign, then decimal digits of any script with a point and an
exponent, or the name of infinity or of what is not a number. A digit may be joined to the next by
an underscore, and blanks may stand at both ends.
-/

namespace Newswire.Double

open Newswire.Text

/-- Blanks and digits of other scripts become those of ASCII; at any other character the text
becomes unreadable. -/
def toAscii : List Char → List Char
  | [] => []
  | c :: cs =>
    if c.toNat < 0x7F then c :: toAscii cs
    else if isBlank c then ' ' :: toAscii cs
    else match decimalValue? c with
      | some d => Nat.digitChar d :: toAscii cs
      | none => ['?']

/-- Leave out the underscores; each must stand between two digits. -/
def joined? (last : Option Char) : List Char → Option (List Char)
  | [] => if last = some '_' then none else some []
  | c :: cs =>
    let afterDigit := (last.bind digitValue?).isSome
    if c = '_' then
      if afterDigit then joined? (some c) cs else none
    else if last = some '_' && (digitValue? c).isNone then none
    else (joined? (some c) cs).map (c :: ·)

def isAsciiBlank (c : Char) : Bool :=
  c = ' ' || (0x9 ≤ c.toNat && c.toNat ≤ 0xD)

/-- The double nearest to `digits · 10 ^ exponent`. Beyond the range of doubles no power is taken.
-/
def ofDecimal (digits : List Char) (exponent : Int) : Float :=
  let n := (number? digits).getD 0
  let size := exponent + (toString n).length
  if n = 0 then 0.0
  else if 400 < size then 1.0 / 0.0
  else if size < -400 then 0.0
  else Float.ofScientific n (exponent < 0) exponent.natAbs

def readExponent? : List Char → Option Int
  | [] => some 0
  | e :: rest =>
    if e = 'e' ∨ e = 'E' then
      match rest with
      | '-' :: ds => if ds.isEmpty then none else (number? ds).map fun n => -(n : Int)
      | '+' :: ds => if ds.isEmpty then none else (number? ds).map Int.ofNat
      | ds => if ds.isEmpty then none else (number? ds).map Int.ofNat
    else none

def readMagnitude? (cs : List Char) : Option Float := do
  let isDigit (c : Char) : Bool := (digitValue? c).isSome
  let whole := cs.takeWhile isDigit
  let rest := cs.dropWhile isDigit
  let (fraction, rest) := match rest with
    | '.' :: r => (r.takeWhile isDigit, r.dropWhile isDigit)
    | r => ([], r)
  if whole.isEmpty && fraction.isEmpty then none
  else
    let exponent ← readExponent? rest
    pure (ofDecimal (whole ++ fraction) (exponent - fraction.length))

def readUnsigned? (cs : List Char) : Option Float :=
  let name := cs.map Char.toLower
  if name = "inf".toList ∨ name = "infinity".toList then some (1.0 / 0.0)
  else if name = "nan".toList then some (0.0 / 0.0)
  else readMagnitude? cs

def read? (text : String) : Option Float := do
  let cs := text.toList
  let cs := if cs.all (·.toNat < 0x80) then cs else toAscii cs
  let cs ← joined? none cs
  match trim isAsciiBlank cs with
  | '-' :: rest => (readUnsigned? rest).map fun x => -x
  | '+' :: rest => readUnsigned? rest
  | rest => readUnsigned? rest

end Newswire.Double

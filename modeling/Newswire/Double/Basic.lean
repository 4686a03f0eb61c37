/-!
Doubles in exact arithmetic: what a double is made of, quotients to set it against, and the text
of its decimal digits.
-/

namespace Newswire.Double

/-- A positive double as `mantissa · 2 ^ exponent`, with the reals that round to it: they reach
half a step to either side, a quarter below when the double begins a new power of two. -/
structure Parts where
  mantissa : Nat
  exponent : Int
  quarterBelow : Bool

def exponentBit : Nat := 0x10000000000000

def signBit : Nat := 0x8000000000000000

def Parts.ofBits (bits : Nat) : Parts :=
  let fraction : Nat := bits % exponentBit
  let biased : Nat := bits / exponentBit
  if biased = 0 then ⟨fraction, -1074, false⟩
  else ⟨exponentBit + fraction, (biased : Int) - 1075, fraction = 0 && 1 < biased⟩

structure Ratio where
  num : Nat
  den : Nat

def Ratio.scale2 (n : Nat) (e : Int) : Ratio :=
  if 0 ≤ e then ⟨n * Nat.pow 2 e.natAbs, 1⟩ else ⟨n, Nat.pow 2 e.natAbs⟩

def Ratio.scale10 (n : Nat) (e : Int) : Ratio :=
  if 0 ≤ e then ⟨n * Nat.pow 10 e.natAbs, 1⟩ else ⟨n, Nat.pow 10 e.natAbs⟩

def Ratio.le (a b : Ratio) : Bool := a.num * b.den ≤ b.num * a.den

def Ratio.lt (a b : Ratio) : Bool := a.num * b.den < b.num * a.den

/-- The power of ten of the first digit. -/
def Parts.magnitude (p : Parts) : Int :=
  let v := Ratio.scale2 p.mantissa p.exponent
  let powers := (List.range 650).map fun (i : Nat) => (310 : Int) - i
  (powers.find? fun e => (Ratio.scale10 1 e).le v).getD 0

def isWhole (x : Float) (n : Int) : Bool :=
  let bits := x.toBits.toNat
  let rest := bits % signBit
  if rest / exponentBit = 2047 then false
  else if rest = 0 then n = 0
  else
    let p := Parts.ofBits rest
    let value := Ratio.scale2 p.mantissa p.exponent
    decide (n < 0) == decide (bits / signBit = 1) && value.num = n.natAbs * value.den

/-! ### The text of digits -/

/-- How digits are written: positional while the number has at most `places` places before the
point, and whether a single digit before an exponent still gets a point and a nought. -/
structure Layout where
  places : Nat
  pointed : Bool

def fractionText (wanted : Bool) (digits : List Char) : String :=
  if !digits.isEmpty then "." ++ String.ofList digits
  else if wanted then ".0"
  else ""

/-- Digits with a point, where the first stands for `10 ^ power`: positional from 0.0001 up to the
places of the layout, otherwise with an exponent of at least two digits. -/
def decimalText (layout : Layout) (digits : List Char) (power : Int) : String :=
  if -4 ≤ power ∧ power < 0 then
    "0." ++ String.ofList (List.replicate (power.natAbs - 1) '0' ++ digits)
  else if 0 ≤ power ∧ power < layout.places then
    let places := power.toNat + 1
    let whole := digits.take places
    String.ofList (whole ++ List.replicate (places - whole.length) '0') ++
      fractionText true (digits.drop places)
  else
    let exponent := toString power.natAbs
    String.ofList (digits.take 1) ++ fractionText layout.pointed (digits.drop 1) ++ "e" ++
      (if power < 0 then "-" else "+") ++ (if exponent.length < 2 then "0" else "") ++ exponent

def withoutNoughts (digits : List Char) : List Char :=
  (digits.reverse.dropWhile (· = '0')).reverse

def signed (infinity nan nought : String) (positive : Parts → String) (x : Float) : String :=
  let bits := x.toBits.toNat
  let sign := if bits / signBit = 1 then "-" else ""
  let rest := bits % signBit
  if x.isNaN then nan
  else if rest / exponentBit = 2047 then sign ++ infinity
  else if rest = 0 then sign ++ nought
  else sign ++ positive (Parts.ofBits rest)

end Newswire.Double

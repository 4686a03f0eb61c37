import Newswire.Double.Basic

/-!
The text of a double to a number of digits that count, worked out in numbers of sixty-four
significant bits. Every step rounds to such a number, so a double close to the middle of two
decimals may go to either of them.
-/

namespace Newswire.Double

/-! ### Numbers with a limited count of bits -/

def Ratio.shift (r : Ratio) (e : Int) : Ratio :=
  if 0 ≤ e then ⟨r.num * Nat.pow 2 e.natAbs, r.den⟩ else ⟨r.num, r.den * Nat.pow 2 e.natAbs⟩

/-- The nearest whole number, of two equally near ones the even. -/
def Ratio.nearest (r : Ratio) : Nat :=
  let below := r.num / r.den
  let twice := 2 * (r.num % r.den)
  if twice < r.den ∨ (twice = r.den ∧ below % 2 = 0) then below else below + 1

theorem nearest_close (r : Ratio) (h : 0 < r.den) :
    2 * r.num ≤ 2 * (r.den * r.nearest) + r.den ∧ 2 * (r.den * r.nearest) ≤ 2 * r.num + r.den := by
  have whole := Nat.div_add_mod r.num r.den
  have rest := Nat.mod_lt r.num h
  simp only [Ratio.nearest]
  split
  · omega
  · simp only [Nat.mul_add, Nat.mul_one]
    omega

/-- The nearest number with `bits` significant bits. -/
def Ratio.keep (bits : Nat) (r : Ratio) : Ratio :=
  if r.num = 0 then ⟨0, 1⟩
  else
    let most : Int := bits + r.den.log2 - r.num.log2
    let up := if (r.shift most).num < Nat.pow 2 bits * (r.shift most).den then most else most - 1
    scale2 (r.shift up).nearest (-up)

def constant (n : Nat) (e : Int) : Ratio :=
  (Ratio.scale10 n e).keep 53

def plus (a b : Ratio) : Ratio :=
  Ratio.keep 64 ⟨a.num * b.den + b.num * a.den, a.den * b.den⟩

def times (a b : Ratio) : Ratio :=
  Ratio.keep 64 ⟨a.num * b.num, a.den * b.den⟩

def dividedBy (a b : Ratio) : Ratio :=
  Ratio.keep 64 ⟨a.num * b.den, a.den * b.num⟩

/-! ### Digits -/

structure Scaled where
  value : Ratio
  power : Int

/-- The powers of ten by which a number is made small, the great ones first. -/
def descents : List Nat :=
  List.replicate 4 100 ++ List.replicate 10 10 ++ List.replicate 10 1

def Scaled.lowered (value : Ratio) : Scaled :=
  let descend (scale : Ratio × Int) (n : Nat) : Ratio × Int :=
    let next := times scale.1 (constant 1 n)
    if next.le value then (next, scale.2 + n) else scale
  let (scale, power) := descents.foldl descend (⟨1, 1⟩, 0)
  ⟨dividedBy value scale, power⟩

/-- The powers of ten by which a number is made great, and below which it is. -/
def ascents : List (Nat × Ratio) :=
  List.replicate 41 (8, constant 1 (-8)) ++ List.replicate 10 (1, ⟨1, 1⟩)

def Scaled.raised (s : Scaled) : Scaled :=
  ascents.foldl (fun s step =>
    if s.value.lt step.2 then ⟨times s.value (constant 1 step.1), s.power - step.1⟩ else s) s

def cellDigits : Nat := 15

def halfUnit : Ratio :=
  times (constant 5 (-5)) (constant 1 (-10))

def Scaled.halfUp (s : Scaled) : Scaled :=
  let value := plus s.value halfUnit
  if Ratio.le ⟨10, 1⟩ value then ⟨times value (constant 1 (-1)), s.power + 1⟩ else ⟨value, s.power⟩

def firstDigits : (count : Nat) → Ratio → List Char
  | 0, _ => []
  | count + 1, r =>
    Nat.digitChar (r.num / r.den) :: firstDigits count (times ⟨r.num % r.den, r.den⟩ ⟨10, 1⟩)

/-- The digits in a cell, without noughts at their end, and the power of ten of the first. -/
def Parts.leading (p : Parts) : List Char × Int :=
  let s := (Scaled.lowered (.scale2 p.mantissa p.exponent)).raised.halfUp
  (withoutNoughts (firstDigits cellDigits s.value), s.power)

/-- The text of a double in a cell, with a point in every case. Nought has no sign. -/
def cellText (x : Float) : String :=
  if x == 0.0 then "0.0"
  else signed "Inf" "NaN" "0.0"
    (fun p => decimalText ⟨cellDigits, true⟩ p.leading.1 p.leading.2) x

end Newswire.Double

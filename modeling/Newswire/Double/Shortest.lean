import Newswire.Double.Basic

/-!
The shortest decimal text of a double: of the decimals that read back as the double it has the
fewest digits, and of these it is the nearest.
-/

namespace Newswire.Double

/-- Does the decimal `n · 10 ^ k` read back as the double? The ends of the interval belong to it
when the mantissa is even. -/
def Parts.reads (p : Parts) (n : Nat) (k : Int) : Bool :=
  let x := Ratio.scale10 n k
  let low := Ratio.scale2 (4 * p.mantissa - (if p.quarterBelow then 1 else 2)) (p.exponent - 2)
  let high := Ratio.scale2 (4 * p.mantissa + 2) (p.exponent - 2)
  if p.mantissa % 2 = 0 then low.le x && x.le high else low.lt x && x.lt high

/-- The decimal `n · 10 ^ k` with `count` digits that reads back, if there is one: the nearer of the
two neighbours on that grid, of equally near ones the even. -/
def Parts.onGrid? (p : Parts) (count : Nat) : Option (Nat × Int) :=
  let k := p.magnitude - (count : Int) + 1
  let v := Ratio.scale2 p.mantissa p.exponent
  let unit := Ratio.scale10 1 k
  let below := v.num * unit.den / (v.den * unit.num)
  -- twice the value in units of the grid against the middle of the two neighbours
  let twice := 2 * v.num * unit.den
  let middle := (2 * below + 1) * (v.den * unit.num)
  let nearer := if twice < middle ∨ (twice = middle ∧ below % 2 = 0) then below else below + 1
  let other := if nearer = below then below + 1 else below
  if p.reads nearer k then some (nearer, k)
  else if p.reads other k then some (other, k)
  else none

def Parts.shortest (p : Parts) : Nat × Int :=
  (((List.range 17).map (· + 1)).findSome? p.onGrid?).getD (0, 0)

def Parts.digits (p : Parts) : List Char × Int :=
  let (n, k) := p.shortest
  let ds := (toString n).toList
  (withoutNoughts ds, k + ds.length - 1)

/-- Up to sixteen places are positional. -/
def plain : Layout := ⟨16, false⟩

def text (x : Float) : String :=
  signed "inf" "nan" "0.0" (fun p => decimalText plain p.digits.1 p.digits.2) x

end Newswire.Double

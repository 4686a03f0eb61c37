import Newswire.Text.Normal.Table

/-!
The compatibility form of a text, composed: every character is taken apart into what it stands for,
marks are put in order, and what can be written as one character is.
-/

namespace Newswire.Text.Normal

/-! ### Taking apart -/

def syllable? (c : Char) : Option Nat :=
  if 0xAC00 ≤ c.toNat && c.toNat < 0xAC00 + 11172 then some (c.toNat - 0xAC00) else none

def letters (n : Nat) : List Char :=
  let final := n % 28
  [Char.ofNat (0x1100 + n / 588), Char.ofNat (0x1161 + n / 28 % 21)] ++
    (if final = 0 then [] else [Char.ofNat (0x11A7 + final)])

def single? (c : Char) : Option Char :=
  singles.findSome? fun run => if c.toNat < run.1 then none else run.2.toList[c.toNat - run.1]?

def listed? (c : Char) (entries : List String) : Option (List Char) :=
  (entries.find? fun entry => entry.toList.head? = some c).map fun entry => entry.toList.drop 1

def apart (c : Char) : List Char :=
  match syllable? c with
  | some n => letters n
  | none =>
    match single? c with
    | some d => [d]
    | none =>
      ((listed? c several).or ((listed? c severalMore).or (listed? c severalRest))).getD [c]

/-! ### Marks -/

def markClass (c : Char) : Nat :=
  ((classes.find? fun r => r.1 ≤ c.toNat && c.toNat ≤ r.2.1).map fun r => r.2.2).getD 0

/-- Put a character before others that are in order. A mark passes marks of lower classes. -/
def insertMark (c : Char) : List Char → List Char
  | [] => [c]
  | d :: rest =>
    if markClass c ≠ 0 ∧ markClass d ≠ 0 ∧ markClass d < markClass c then d :: insertMark c rest
    else c :: d :: rest

def ordered : List Char → List Char
  | [] => []
  | c :: rest => insertMark c (ordered rest)

theorem perm_insertMark (c : Char) (cs : List Char) : (insertMark c cs).Perm (c :: cs) := by
  induction cs with
  | nil => exact List.Perm.refl _
  | cons d rest ih =>
    simp only [insertMark]
    split
    · exact (List.Perm.cons d ih).trans (List.Perm.swap c d rest)
    · exact List.Perm.refl _

theorem perm_ordered (cs : List Char) : (ordered cs).Perm cs := by
  induction cs with
  | nil => exact List.Perm.refl _
  | cons c rest ih => exact (perm_insertMark c (ordered rest)).trans (List.Perm.cons c ih)

/-! ### Putting together -/

def pair? (a b : Char) : Option Char :=
  (pairs.find? fun p => p.toList.take 2 = [a, b]).bind fun p => p.toList[2]?

/-- The syllable that is written for an initial and a vowel, or for a syllable and a final. -/
def syllableOf? (a b : Char) : Option Char :=
  let x := a.toNat
  let y := b.toNat
  if 0x1100 ≤ x && x < 0x1113 && 0x1161 ≤ y && y < 0x1176 then
    some (Char.ofNat (0xAC00 + ((x - 0x1100) * 21 + (y - 0x1161)) * 28))
  else if 0x11A8 ≤ y && y < 0x11C3 then
    (syllable? a).bind fun n => if n % 28 = 0 then some (Char.ofNat (x + (y - 0x11A7))) else none
  else none

/-- Put together what follows `base`. The marks passed since then could not be put together with
it, and only a mark of a higher class reaches over them. -/
def togetherFrom (base : Char) (passed : List Char) : List Char → List Char
  | [] => base :: passed
  | c :: rest =>
    let reaches := (passed.getLast?.map fun d => decide (markClass d < markClass c)).getD true
    match (if reaches then (pair? base c).or (syllableOf? base c) else none) with
    | some whole => togetherFrom whole passed rest
    | none =>
      if markClass c = 0 then base :: passed ++ togetherFrom c [] rest
      else togetherFrom base (passed ++ [c]) rest

def together : List Char → List Char
  | [] => []
  | c :: rest => if markClass c = 0 then togetherFrom c [] rest else c :: together rest

def form (cs : List Char) : List Char :=
  together (ordered (cs.flatMap apart))

end Newswire.Text.Normal

import Newswire.Charset.Basic

/-!
Planes: sets in which two bytes stand for a character, the first for its row and the second for its
cell. Several planes may share out the bytes of one set.
-/

namespace Newswire.Charset

/-- Rows of characters, with the numbers of the first row and of the first cell of every row. A
point stands for a cell without a character, and so does the end of a row. -/
structure Plane where
  row : Nat
  cell : Nat
  rows : Array String

def Plane.at? (p : Plane) (row cell : Nat) : Option Char :=
  if row < p.row || cell < p.cell then none
  else ((p.rows[row - p.row]?).bind fun r => r.toList[cell - p.cell]?).filter (· != '.')

def atFirst? (planes : List Plane) (row cell : Nat) : Option Char :=
  planes.findSome? fun p => p.at? row cell

/-- What two bytes stand for, given that they stand for something. One byte without a second is
incomplete; of a pair that stands for nothing only the first byte is at fault. -/
def pairFront (look : Nat → Nat → Option Char) (b : UInt8) (rest : List UInt8) : Front :=
  match rest with
  | [] => .bad 0 .incompleteSequence
  | c :: _ =>
    match look b.toNat c.toNat with
    | some found => .char found 1
    | none => .bad 0 .illegalSequence

def asciiOr (front : UInt8 → List UInt8 → Front) (b : UInt8) (rest : List UInt8) : Front :=
  if b < 0x80 then .char (Char.ofNat b.toNat) 0 else front b rest

/-- Look up in the upper half of the bytes what a plane has in the lower half. -/
def upper (look : Nat → Nat → Option Char) (row cell : Nat) : Option Char :=
  if 0x80 ≤ row && 0x80 ≤ cell then look (row - 0x80) (cell - 0x80) else none

end Newswire.Charset

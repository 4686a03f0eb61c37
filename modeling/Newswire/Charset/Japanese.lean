import Newswire.Charset.Plane.Cp932
import Newswire.Charset.Plane.JisX0208
import Newswire.Charset.Plane.JisX0212
import Newswire.Charset.Plane.JisX0213

/-!
The character sets of Japan: the planes of the national standards, in the upper half of the bytes or
shifted so that single bytes for kana fit in.
-/

namespace Newswire.Charset.Japanese

inductive Edition where
  | first | second
deriving DecidableEq

/-- What stands in a cell of the first plane of JIS X 0213, which holds JIS X 0208. -/
def firstPlane? (row cell : Nat) : Option (List Char) :=
  ((atFirst? [jisX0208, jisX0213] row cell).map (fun c => [c])).or
    (jisX0213Pairs.lookup (row, cell))

/-- Was the cell of the first plane filled after the edition? -/
def comesLater (edition : Edition) (row cell : Nat) : Bool :=
  edition = .first && jisX0213Later.contains (row, cell)

/-- The character in a cell of the second plane. One character changed its cell between the
editions. -/
def secondPlane? (edition : Edition) (row cell : Nat) : Option Char :=
  if edition = .first && row = 0x7D && cell = 0x3B then some '\u9b1d'
  else jisX0213Second.at? row cell

def kana (b : UInt8) : Char :=
  Char.ofNat (0xFEC0 + b.toNat)

def isKana (b : UInt8) : Bool :=
  0xA1 ≤ b && b ≤ 0xDF

/-! ### The upper half of the bytes -/

def shiftedKana (rest : List UInt8) : Front :=
  match rest with
  | [] => .bad 0 .incompleteSequence
  | c :: _ => if isKana c then .char (kana c) 1 else .bad 0 .illegalSequence

def shiftedPlane (look : Nat → Nat → Option Char) (rest : List UInt8) : Front :=
  match rest with
  | c :: d :: _ =>
    match upper look c.toNat d.toNat with
    | some found => .char found 2
    | none => .bad 0 .illegalSequence
  | short => .bad short.length .incompleteSequence

def euc (b : UInt8) (rest : List UInt8) : Front :=
  if b = 0x8E then shiftedKana rest
  else if b = 0x8F then shiftedPlane jisX0212.at? rest
  else pairFront (upper jisX0208.at?) b rest

/-- The character of a pair of bytes on the first plane; the tilde of the standard is a wide one. -/
def widePlane? (row cell : Nat) : Option (List Char) :=
  if row = 0x22 ∧ cell = 0x32 then some ['\uff5e'] else firstPlane? row cell

def euc2004 (edition : Edition) (b : UInt8) (rest : List UInt8) : Front :=
  if b = 0x8E then shiftedKana rest
  else if b = 0x8F then
    shiftedPlane (fun row cell => (secondPlane? edition row cell).or (jisX0212.at? row cell)) rest
  else
    match rest with
    | [] => .bad 0 .incompleteSequence
    | c :: _ =>
      let row := b.toNat - 0x80
      let cell := c.toNat - 0x80
      if c < 0x80 then .bad 0 .illegalSequence
      else if comesLater edition row cell then .bad 1 .illegalSequence
      else
        match widePlane? row cell with
        | some cs => .chars cs 1
        | none => .bad 0 .illegalSequence

/-! ### Shifted bytes -/

def shiftedCell? (first second : Nat) : Option (Nat × Nat) :=
  if second < 0x40 || second = 0x7F || 0xFC < second then none
  else
    let lead := if first < 0xE0 then first - 0x81 else first - 0xC1
    let place := if second < 0x80 then second - 0x40 else second - 0x41
    some (2 * lead + place / 94, place % 94)

def isLead (last b : UInt8) : Bool :=
  (0x81 ≤ b && b ≤ 0x9F) || (0xE0 ≤ b && b ≤ last)

def jisPair? (first second : Nat) : Option Char := do
  let (row, cell) ← shiftedCell? first second
  jisX0208.at? (row + 0x21) (cell + 0x21)

def shifted (b : UInt8) (rest : List UInt8) : Front :=
  if b < 0x80 then .char (Char.ofNat b.toNat) 0
  else if isKana b then .char (kana b) 0
  else if isLead 0xEA b then pairFront jisPair? b rest
  else .bad 0 .illegalSequence

/-- The character of one byte after JIS X 0201, which has a yen and a line above. -/
def roman (b : UInt8) : Char :=
  if b = 0x5C then '\u00a5' else if b = 0x7E then '\u203e' else Char.ofNat b.toNat

/-- The row of the second plane that a row beyond the first plane stands for. -/
def secondRow (row : Nat) : Nat :=
  if 0x67 ≤ row then row + 0x07
  else if 0x63 ≤ row || row = 0x5F then row - 0x37
  else row - 0x3D

def shiftedPlanes (edition : Edition) (first second : Nat) : Front :=
  match shiftedCell? first second with
  | none => .bad 0 .illegalSequence
  | some (row, cell) =>
    let found :=
      if 0x5E ≤ row then (secondPlane? edition (secondRow row) (cell + 0x21)).map fun c => [c]
      else if row = 0 ∧ cell = 0x1F then some ['\\']
      else firstPlane? (row + 0x21) (cell + 0x21)
    if row < 0x5E && comesLater edition (row + 0x21) (cell + 0x21) then .bad 1 .illegalSequence
    else
      match found with
      | some cs => .chars cs 1
      | none => .bad 0 .illegalSequence

def shifted2004 (edition : Edition) (b : UInt8) (rest : List UInt8) : Front :=
  if b < 0x80 then .char (roman b) 0
  else if isKana b then .char (kana b) 0
  else if isLead 0xFC b then
    match rest with
    | [] => .bad 0 .incompleteSequence
    | c :: _ => shiftedPlanes edition b.toNat c.toNat
  else .bad 0 .illegalSequence

/-- The private characters of code page 932: 188 for each first byte from F0 up to F9. -/
def private932? (first second : Nat) : Option Char :=
  if first < 0xF0 || 0xF9 < first || second < 0x40 || second = 0x7F || 0xFC < second then none
  else
    let place := if second < 0x80 then second - 0x40 else second - 0x41
    some (Char.ofNat (0xE000 + 188 * (first - 0xF0) + place))

def pair932? (first second : Nat) : Option Char :=
  (atFirst? [cp932Low, cp932High] first second).or
    ((private932? first second).or (jisPair? first second))

def page932 (b : UInt8) (rest : List UInt8) : Front :=
  if b ≤ 0x80 then .char (Char.ofNat b.toNat) 0
  else if b = 0xA0 then .char '\uf8f0' 0
  else if isKana b then .char (kana b) 0
  else if 0xFD ≤ b then .char (Char.ofNat (0xF8F1 - 0xFD + b.toNat)) 0
  else pairFront pair932? b rest

end Newswire.Charset.Japanese

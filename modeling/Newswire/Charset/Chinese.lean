import Newswire.Charset.Plane.Big5
import Newswire.Charset.Plane.Gb18030
import Newswire.Charset.Plane.Gb2312
import Newswire.Charset.Plane.Hkscs

/-!
The character sets of China, Taiwan and Hong Kong.
-/

namespace Newswire.Charset.Chinese

/-! ### The national standards -/

def gb (b : UInt8) (rest : List UInt8) : Front :=
  pairFront (upper gb2312.at?) b rest

def gbkPair? (first second : Nat) : Option Char :=
  (atFirst? [gbkLow, gbkMiddle, gbkHigh] first second).or (upper gb2312.at? first second)

def gbk (b : UInt8) (rest : List UInt8) : Front :=
  pairFront gbkPair? b rest

def private18030? (first second : Nat) : Option Char :=
  if 0xAA ≤ first && first ≤ 0xAF && 0xA1 ≤ second && second ≤ 0xFE then
    some (Char.ofNat (0xE000 + 94 * (first - 0xAA) + (second - 0xA1)))
  else if 0xF8 ≤ first && first ≤ 0xFE && 0xA1 ≤ second && second ≤ 0xFE then
    some (Char.ofNat (0xE234 + 94 * (first - 0xF8) + (second - 0xA1)))
  else if 0xA1 ≤ first && first ≤ 0xA7 && 0x40 ≤ second && second ≤ 0xA0 && second ≠ 0x7F then
    some (Char.ofNat (0xE4C6 + 96 * (first - 0xA1) +
      (if second < 0x7F then second - 0x40 else second - 0x41)))
  else none

def pair18030? (first second : Nat) : Option Char :=
  (gbkPair? first second).or
    ((atFirst? [gb18030Low, gb18030Middle, gb18030High] first second).or
      (private18030? first second))

def quadNumber (first second third fourth : Nat) : Nat :=
  ((first * 10 + (second - 0x30)) * 126 + (third - 0x81)) * 10 + (fourth - 0x30)

def quadCount : Nat := 39420

/-- The character of four bytes: below U+10000 in runs, and from there on one after the other. -/
def quad? (first second third fourth : Nat) : Option Char :=
  if first < 0x81 || 0xFE < first || third < 0x81 || 0xFE < third
      || fourth < 0x30 || 0x39 < fourth then none
  else if first < 0x85 then
    let n := quadNumber (first - 0x81) second third fourth
    if n < quadCount then
      ((gb18030Runs.takeWhile fun r => r.1 ≤ n).getLast?).map fun r => Char.ofNat (r.2 + (n - r.1))
    else none
  else if 0x90 ≤ first then
    let n := 0x10000 + quadNumber (first - 0x90) second third fourth
    if n ≤ 0x10FFFF then some (Char.ofNat n) else none
  else none

def gb18030 (b : UInt8) (rest : List UInt8) : Front :=
  match rest with
  | [] => .bad 0 .incompleteSequence
  | c :: more =>
    if 0x30 ≤ c && c ≤ 0x39 then
      match more with
      | d :: e :: _ =>
        match quad? b.toNat c.toNat d.toNat e.toNat with
        | some found => .char found 3
        | none => .bad 0 .illegalSequence
      | short => .bad (1 + short.length) .incompleteSequence
    else pairFront pair18030? b rest

/-! ### Seven bits -/

/-- GB 2312 between tildes: `tilde` and a brace change between it and ASCII, which the state tells
from it. -/
def seven (inPlane : Bool) (b : UInt8) (rest : List UInt8) : Bool × Front :=
  if b = 0x7E then
    match rest with
    | [] => (inPlane, .bad 0 .incompleteSequence)
    | c :: _ =>
      match inPlane, Char.ofNat c.toNat with
      | false, '~' => (false, .char '~' 1)
      | false, '\x7b' => (true, .chars [] 1)
      | false, '\n' => (false, .chars [] 1)
      | true, '\x7d' => (false, .chars [] 1)
      | _, _ => (inPlane, .bad 0 .illegalSequence)
  else if 0x80 ≤ b then (inPlane, .bad 0 .illegalSequence)
  else if inPlane then (true, pairFront gb2312.at? b rest)
  else (false, .char (Char.ofNat b.toNat) 0)

/-! ### Big5 -/

def big5Pair? (first second : Nat) : Option Char :=
  atFirst? [big5Low, big5High] first second

def big5 (b : UInt8) (rest : List UInt8) : Front :=
  pairFront big5Pair? b rest

def page950 (b : UInt8) (rest : List UInt8) : Front :=
  pairFront (fun first second =>
    (atFirst? [cp950Low, cp950High] first second).or (big5Pair? first second)) b rest

def accented : List ((Nat × Nat) × List Char) := [
  ((0x88, 0x62), ['\u00ca', '\u0304']), ((0x88, 0x64), ['\u00ca', '\u030c']),
  ((0x88, 0xA3), ['\u00ea', '\u0304']), ((0x88, 0xA5), ['\u00ea', '\u030c'])]

/-- Does the supplement take the place of Big5 here? -/
def isReplaced (first second : Nat) : Bool :=
  0xC6 ≤ first && first ≤ 0xC8 && (0xC7 ≤ first || 0xA1 ≤ second)

def hongKongPair? (first second : Nat) : Option (List Char) :=
  let supplement := atFirst? [hkscsLow, hkscsHigh] first second
  let found := if isReplaced first second then supplement
    else (big5Pair? first second).or supplement
  (found.map fun c => [c]).or (accented.lookup (first, second))

def hongKong (b : UInt8) (rest : List UInt8) : Front :=
  match rest with
  | [] => .bad 0 .incompleteSequence
  | c :: _ =>
    match hongKongPair? b.toNat c.toNat with
    | some cs => .chars cs 1
    | none => .bad 0 .illegalSequence

end Newswire.Charset.Chinese

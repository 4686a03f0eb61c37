import Newswire.Charset.Chinese
import Newswire.Charset.Japanese
import Newswire.Charset.Korean
import Newswire.Charset.Table

/-!
Text of seven bits that switches between sets. A sequence that begins with an escape designates a
set to one of three slots: the first is in use at once, the second after a shift, and the third
for a single character.
-/

namespace Newswire.Charset

inductive Coded where
  | ascii | roman | kana | latin | greek
  | jisX0208 | jisX0212 | jisX0213 (edition : Japanese.Edition) | jisX0213Second
  | ksX1001 | gb2312
deriving DecidableEq

def Coded.cell? : Coded → Nat → Nat → Option (List Char)
  | .jisX0208, row, cell => (Charset.jisX0208.at? row cell).map fun c => [c]
  | .jisX0212, row, cell => (Charset.jisX0212.at? row cell).map fun c => [c]
  | .jisX0213 edition, row, cell =>
    if Japanese.comesLater edition row cell then none else Japanese.firstPlane? row cell
  | .jisX0213Second, row, cell => (Charset.jisX0213Second.at? row cell).map fun c => [c]
  | .ksX1001, row, cell => (Charset.ksX1001.at? row cell).map fun c => [c]
  | .gb2312, row, cell => (Charset.gb2312.at? row cell).map fun c => [c]
  | _, _, _ => none

/-- What a set in use makes of a byte and those that follow it. The upper halves of sets, which
are for single characters only, have nothing here. -/
def Coded.front (set : Coded) (b : UInt8) (rest : List UInt8) : Front :=
  match set with
  | .ascii => .char (Char.ofNat b.toNat) 0
  | .roman => .char (Japanese.roman b) 0
  | .kana =>
    if Japanese.isKana (b ||| 0x80) then .char (Japanese.kana (b ||| 0x80)) 0
    else .bad 0 .illegalSequence
  | .latin | .greek => .bad 0 .illegalSequence
  | set =>
    match rest with
    | [] => .bad 0 .incompleteSequence
    | c :: _ =>
      match set.cell? b.toNat c.toNat with
      | some cs => .chars cs 1
      | none => .bad 1 .illegalSequence

/-- How a set is designated: by the byte that ends the sequence, and whether it is one of two
bytes. -/
abbrev Designator := Char × Bool

/-- A flavour of switched text: its sets beside ASCII, whether there are shifts, whether a
sequence may have one that announces it before it, and whether there is a third slot. -/
structure Flavour where
  sets : List (Designator × Coded)
  shifts : Bool
  announced : Bool
  single : Bool

/-- What the slots hold, whether the second is in use, and whether bytes pass as they are because an
unknown sequence is under way. -/
structure Slots where
  first : Coded
  second : Coded
  third : Coded
  shifted : Bool
  passing : Bool

def Slots.initial : Slots := ⟨.ascii, .ascii, .ascii, false, false⟩

def endsSequence (b : UInt8) : Bool :=
  0x40 ≤ b && b ≤ 0x5A

def beginsDesignation (b : UInt8) : Bool :=
  b = 0x24 || b = 0x26 || b = 0x28 || b = 0x29 || b = 0x2E

inductive Extent where
  | complete (length : Nat)
  | incomplete
  | endless

def longestSequence : Nat := 16

def extent (announced : Bool) (passed : Nat) : List UInt8 → Extent
  | [] => if passed < longestSequence then .incomplete else .endless
  | b :: rest =>
    if longestSequence ≤ passed then .endless
    else if endsSequence b then .complete (passed + 1)
    else if announced && b = 0x26 && rest.head? = some 0x40 then
      extent announced (passed + 3) (rest.drop 2)
    else extent announced (passed + 1) rest
termination_by bytes => bytes.length
decreasing_by all_goals simp only [List.length_drop, List.length_cons]; omega

inductive Slot where
  | first | second | third

def Slots.put (s : Slots) (slot : Slot) (set : Coded) : Slots :=
  match slot with
  | .first => { s with first := set }
  | .second => { s with second := set }
  | .third => { s with third := set }

def designation? (f : Flavour) (sequence : List UInt8) : Option (Slot × Designator) :=
  match sequence.map fun b => Char.ofNat b.toNat with
  | ['$', set] => some (.first, (set, true))
  | ['(', set] => some (.first, (set, false))
  | [')', set] => some (.second, (set, false))
  | ['.', set] => if f.single then some (.third, (set, false)) else none
  | ['$', '(', set] => some (.first, (set, true))
  | ['$', ')', set] => some (.second, (set, true))
  | [_, _, '\x1b', '$', 'B'] => if f.announced then some (.first, ('B', true)) else none
  | _ => none

def Flavour.set? (f : Flavour) (d : Designator) : Option Coded :=
  if d = ('B', false) then some .ascii else f.sets.lookup d

def Flavour.designate (f : Flavour) (s : Slots) (rest : List UInt8) : Slots × Front :=
  match extent f.announced 1 rest with
  | .incomplete => (s, .bad rest.length .incompleteSequence)
  | .endless => (s, .bad 0 .illegalSequence)
  | .complete length =>
    match designation? f (rest.take (length - 1)) with
    | none => (s, .bad (length - 1) .illegalSequence)
    | some (slot, d) =>
      match f.set? d with
      | none => (s, .bad (length - 1) .illegalSequence)
      | some set => (s.put slot set, .chars [] (length - 1))

/-- The Greek letters of the first edition of their set, by bytes of its upper half. -/
def greekLetter? (b : UInt8) : Option Char :=
  if b < 0x80 then some (Char.ofNat b.toNat)
  else if b = 0xA4 || b = 0xA5 || b = 0xAA then none
  else
    ((upperHalves.lookup "iso8859_7").bind fun letters => letters.toList[b.toNat - 0x80]?).filter
      (· != noCharacter)

def Coded.single (set : Coded) (b : UInt8) : Front :=
  match set with
  | .latin =>
    if b < 0x80 then .char (Char.ofNat (b.toNat + 0x80)) 2 else .bad 2 .illegalSequence
  | .greek =>
    match greekLetter? (b ^^^ 0x80) with
    | some c => .char c 2
    | none => .bad 2 .illegalSequence
  | .ascii => if b < 0x80 then .char (Char.ofNat b.toNat) 2 else .bad 2 .illegalSequence
  | _ => .bad 0 .unknownSet

def Flavour.escape (f : Flavour) (s : Slots) (rest : List UInt8) : Slots × Front :=
  match rest with
  | [] => (s, .bad 0 .incompleteSequence)
  | c :: more =>
    if beginsDesignation c then f.designate s rest
    else if f.single && c = 0x4E then
      match more with
      | [] => (s, .bad 1 .incompleteSequence)
      | d :: _ => (s, s.third.single d)
    else ({ s with passing := true }, .char '\x1b' 0)

/-- What stands at the front of switched text. The end of a line ends a shift. -/
def Flavour.front (f : Flavour) (s : Slots) (b : UInt8) (rest : List UInt8) : Slots × Front :=
  let plain : Front := .char (Char.ofNat b.toNat) 0
  if s.passing then ({ s with passing := !endsSequence b }, plain)
  else if b = 0x1B then f.escape s rest
  else if f.shifts && b = 0x0F then ({ s with shifted := false }, .chars [] 0)
  else if f.shifts && b = 0x0E then ({ s with shifted := true }, .chars [] 0)
  else if b = 0x0A then ({ s with shifted := false }, plain)
  else if b < 0x20 then (s, plain)
  else if 0x80 ≤ b then (s, .bad 0 .illegalSequence)
  else (s, (if s.shifted then s.second else s.first).front b rest)

/-! ### The flavours -/

def koreanFlavour : Flavour := ⟨[(('C', true), .ksX1001)], true, false, false⟩

def kanjiSets : List (Designator × Coded) :=
  [(('B', true), .jisX0208), (('@', true), .jisX0208)]

def japaneseFlavour (more : List (Designator × Coded)) : Flavour :=
  ⟨kanjiSets ++ (('J', false), .roman) :: more, false, true, false⟩

def neighbouringFlavour : Flavour :=
  { japaneseFlavour [(('D', true), .jisX0212), (('C', true), .ksX1001), (('A', true), .gb2312),
      (('A', false), .latin), (('F', false), .greek)] with single := true }

def planesFlavour (designator : Char) (edition : Japanese.Edition) : Flavour :=
  ⟨[(('B', true), .jisX0208), ((designator, true), .jisX0213 edition),
      (('P', true), .jisX0213Second)], false, true, false⟩

def flavours : List (String × Flavour) := [
  ("iso2022_kr", koreanFlavour),
  ("iso2022_jp", japaneseFlavour []),
  ("iso2022_jp_1", japaneseFlavour [(('D', true), .jisX0212)]),
  ("iso2022_jp_2", neighbouringFlavour),
  ("iso2022_jp_2004", planesFlavour 'Q' .second),
  ("iso2022_jp_3", planesFlavour 'O' .first),
  ("iso2022_jp_ext", japaneseFlavour [(('D', true), .jisX0212), (('I', false), .kana)])]

end Newswire.Charset

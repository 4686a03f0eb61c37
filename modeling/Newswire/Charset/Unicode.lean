import Newswire.Charset.Basic

/-!
The encodings of Unicode: in units of one, two and four bytes, and in the characters of mail.
-/

namespace Newswire.Charset

/-! ### Units of one byte -/

def continues (b : UInt8) : Bool :=
  b &&& 0xC0 == 0x80

def payload (b : UInt8) : Nat :=
  (b &&& 0x3F).toNat

/-- May `second` follow `first`? Forms that are too long, surrogates and what lies beyond the last
code point are told by the second byte. -/
def mayFollow (first second : UInt8) : Bool :=
  continues second &&
    (if first = 0xE0 then 0xA0 ≤ second
     else if first = 0xED then second < 0xA0
     else if first = 0xF0 then 0x90 ≤ second
     else if first = 0xF4 then second < 0x90
     else true)

def utf8 (b : UInt8) (rest : List UInt8) : Front :=
  if b < 0x80 then .char (Char.ofNat b.toNat) 0
  else if b < 0xC2 || 0xF4 < b then .bad 0 .startByte
  else
    let needed := if b < 0xE0 then 1 else if b < 0xF0 then 2 else 3
    match rest with
    | [] => .bad 0 .unexpectedEnd
    | second :: rest =>
      if !mayFollow b second then .bad 0 .continuation
      else
        let others := (rest.take (needed - 1)).takeWhile continues
        if others.length = needed - 1 then
          let lead := b.toNat % Nat.pow 2 (6 - needed)
          .code ((second :: others).foldl (fun n c => n * 64 + payload c) lead) needed
        else if others.length = rest.length then .bad (1 + others.length) .unexpectedEnd
        else .bad (1 + others.length) .continuation

def byteOrderMark : List UInt8 := [0xEF, 0xBB, 0xBF]

/-! ### Units of two and four bytes -/

inductive Order where
  | little | big
deriving DecidableEq

def Order.value (order : Order) (bytes : List UInt8) : Nat :=
  let most := match order with
    | .little => bytes.reverse
    | .big => bytes
  most.foldl (fun n b => n * 256 + b.toNat) 0

def utf16 (order : Order) (b : UInt8) (rest : List UInt8) : Front :=
  match rest with
  | [] => .bad 0 .truncated
  | c :: rest =>
    let unit := order.value [b, c]
    if unit < 0xD800 || 0xDFFF < unit then .code unit 1
    else if 0xDC00 ≤ unit then .bad 1 .unpairedLow
    else
      match rest with
      | d :: e :: _ =>
        let low := order.value [d, e]
        if 0xDC00 ≤ low && low ≤ 0xDFFF then
          .code (0x10000 + (unit - 0xD800) * 0x400 + (low - 0xDC00)) 3
        else .bad 1 .unpairedHigh
      | short => .bad (1 + short.length) .unexpectedEnd

def utf32 (order : Order) (b : UInt8) (rest : List UInt8) : Front :=
  match rest with
  | c :: d :: e :: _ =>
    let unit := order.value [b, c, d, e]
    if 0xD800 ≤ unit && unit ≤ 0xDFFF then .bad 3 .surrogate
    else if 0x110000 ≤ unit then .bad 3 .notCodePoint
    else .code unit 3
  | short => .bad short.length .truncated

/-- The order that a mark at the front tells, and how many bytes the mark takes. -/
def orderOf (size : Nat) (bytes : List UInt8) : Order × Nat :=
  let front := bytes.take size
  if front.length < size then (.little, 0)
  else if Order.value .little front = 0xFEFF then (.little, size)
  else if Order.value .big front = 0xFEFF then (.big, size)
  else (.little, 0)

/-! ### The characters of mail -/

def sextet? (b : UInt8) : Option Nat :=
  let c := Char.ofNat b.toNat
  if 'A' ≤ c && c ≤ 'Z' then some (b.toNat - 65)
  else if 'a' ≤ c && c ≤ 'z' then some (b.toNat - 71)
  else if '0' ≤ c && c ≤ '9' then some (b.toNat + 4)
  else if c = '+' then some 62
  else if c = '/' then some 63
  else none

def isDirect (b : UInt8) : Bool :=
  b < 0x80 && b != 0x2B

/-- A shifted section under way: where it began, the bits not used yet with their number, and a high
surrogate that waits for its partner. -/
structure Shift where
  start : Nat
  bits : Nat
  value : Nat
  high : Option Nat

/-- The surrogate that waits, if there is one; it gets no partner. -/
def Shift.alone (s : Shift) : List Char :=
  s.high.toList.flatMap Text.spell

def Shift.takeUnit (s : Shift) (unit : Nat) : Shift × List Char :=
  match s.high with
  | some high =>
    if 0xDC00 ≤ unit && unit < 0xE000 then
      ({ s with high := none },
        Text.spell (0x10000 + (high - 0xD800) * 0x400 + (unit - 0xDC00)))
    else if 0xD800 ≤ unit && unit < 0xDC00 then ({ s with high := some unit }, s.alone)
    else ({ s with high := none }, s.alone ++ Text.spell unit)
  | none =>
    if 0xD800 ≤ unit && unit < 0xDC00 then ({ s with high := some unit }, [])
    else (s, Text.spell unit)

def Shift.take (s : Shift) (sextet : Nat) : Shift × List Char :=
  let bits := s.bits + 6
  let value := s.value * 64 + sextet
  if bits < 16 then ({ s with bits := bits, value := value }, [])
  else
    { s with bits := bits - 16, value := value % Nat.pow 2 (bits - 16) }.takeUnit
      (value / Nat.pow 2 (bits - 16))

def Shift.leftover? (s : Shift) : Option Reason :=
  if 6 ≤ s.bits then some .partialUnit
  else if s.value ≠ 0 then some .paddingBits
  else none

/-- Decode bytes from `position` on; `all` are the bytes from the beginning. -/
def utf7From (all : List UInt8) (shift : Option Shift) (position : Nat) :
    List UInt8 → Except Invalid (List Char)
  | [] =>
    match shift with
    | some s =>
      if s.high.isSome || s.leftover?.isSome then
        .error ⟨s.start, all.drop s.start, .unterminated⟩
      else .ok []
    | none => .ok []
  | b :: rest =>
    let invalid (start : Nat) (reason : Reason) : Except Invalid (List Char) :=
      .error ⟨start, (all.drop start).take (position + 1 - start), reason⟩
    match shift with
    | some s =>
      match sextet? b with
      | some sextet =>
        let (s, cs) := s.take sextet
        (utf7From all (some s) (position + 1) rest).map (cs ++ ·)
      | none =>
        match s.leftover? with
        | some reason => invalid s.start reason
        | none =>
          if b = 0x2D then (utf7From all none (position + 1) rest).map (s.alone ++ ·)
          else if isDirect b then
            (utf7From all none (position + 1) rest).map (s.alone ++ Char.ofNat b.toNat :: ·)
          else invalid position .specialCharacter
    | none =>
      if b = 0x2B then
        match rest with
        | c :: more =>
          if c = 0x2D then (utf7From all none (position + 2) more).map ('+' :: ·)
          else if (sextet? c).isNone then
            .error ⟨position, [b, c], .illFormed⟩
          else utf7From all (some ⟨position, 0, 0, none⟩) (position + 1) (c :: more)
        | [] => .ok []
      else if isDirect b then
        (utf7From all none (position + 1) rest).map (Char.ofNat b.toNat :: ·)
      else invalid position .specialCharacter
termination_by bytes => bytes.length

end Newswire.Charset

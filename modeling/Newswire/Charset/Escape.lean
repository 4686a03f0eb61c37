import Newswire.Charset.Basic
import Newswire.Text.Name

/-!
Text in which characters are escaped. Bytes stand for the characters of their numbers, and after a
backslash a character is given by a letter, by digits or by its name.
-/

namespace Newswire.Charset

def ofByte (b : UInt8) : Char :=
  Char.ofNat b.toNat

def hexValue? (b : UInt8) : Option Nat :=
  let c := ofByte b
  if '0' ≤ c ∧ c ≤ '9' then some (b.toNat - 48)
  else if 'a' ≤ c ∧ c ≤ 'f' then some (b.toNat - 87)
  else if 'A' ≤ c ∧ c ≤ 'F' then some (b.toNat - 55)
  else none

/-- The character with a number of `width` hexadecimal digits, which follow a backslash and the
letter. -/
def numbered (letter : Char) (width : Nat) (tooGreat : Reason) (rest : List UInt8) : Front :=
  let digits := ((rest.take width).map hexValue?).takeWhile Option.isSome
  if digits.length < width then .bad (1 + digits.length) (.truncatedEscape letter width)
  else
    let n := digits.foldl (fun n d => 16 * n + d.getD 0) 0
    if 0x110000 ≤ n then .bad (1 + width) tooGreat
    else .code n (1 + width)

def named (rest : List UInt8) : Front :=
  match rest with
  | [] => .bad 1 .malformedName
  | brace :: rest =>
    if brace ≠ 0x7B then .bad 1 .malformedName
    else
      let name := rest.takeWhile (· != 0x7D)
      if name.length = rest.length then .bad (2 + name.length) .malformedName
      else if name.isEmpty then .bad 2 .malformedName
      else
        match Text.Name.find? (name.map ofByte) with
        | some n => .code n (3 + name.length)
        | none => .bad (3 + name.length) .unknownCharacter

def shortEscape? : Char → Option (List Char)
  | '\n' => some []
  | '\\' => some ['\\']
  | '\x27' => some ['\x27']
  | '\x22' => some ['\x22']
  | 'a' => some ['\x07']
  | 'b' => some ['\x08']
  | 'f' => some ['\x0c']
  | 'n' => some ['\n']
  | 'r' => some ['\r']
  | 't' => some ['\t']
  | 'v' => some ['\x0b']
  | _ => none

def isOctal (b : UInt8) : Bool :=
  0x30 ≤ b && b ≤ 0x37

/-- What follows a backslash. What is no escape stands for itself. -/
def escaped : List UInt8 → Front
  | [] => .bad 0 .loneBackslash
  | b :: rest =>
    match shortEscape? (ofByte b) with
    | some cs => .chars cs 1
    | none =>
      if isOctal b then
        let digits := b :: (rest.take 2).takeWhile isOctal
        .char (Char.ofNat (digits.foldl (fun n d => 8 * n + (d.toNat - 48)) 0)) digits.length
      else
        match ofByte b with
        | 'x' => numbered 'x' 2 .outOfRange rest
        | 'u' => numbered 'u' 4 .outOfRange rest
        | 'U' => numbered 'U' 8 .outOfRange rest
        | 'N' => named rest
        | c => .chars ['\\', c] 1

def escapes (b : UInt8) (rest : List UInt8) : Front :=
  if ofByte b = '\\' then escaped rest else .char (ofByte b) 0

/-- Text in which characters are escaped by their numbers only. A backslash before anything else
stands for itself, and so does what follows it. -/
def numberEscapes (b : UInt8) (rest : List UInt8) : Front :=
  if ofByte b ≠ '\\' then .char (ofByte b) 0
  else
    match rest with
    | [] => .char '\\' 0
    | letter :: rest =>
      match ofByte letter with
      | 'u' => numbered 'u' 4 .escapeOutOfRange rest
      | 'U' => numbered 'U' 8 .escapeOutOfRange rest
      | c => .chars ['\\', c] 1

end Newswire.Charset

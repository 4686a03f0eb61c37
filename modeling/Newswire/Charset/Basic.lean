import Newswire.Text.Half

/-!
Decoding bytes into the characters of a text, one after the other. Each character set says what
stands at the front of the bytes; bytes that stand for nothing end the decoding.
-/

namespace Newswire.Charset

inductive Reason where
  | notAscii
  | undefinedByte
  | startByte
  | continuation
  | unexpectedEnd
  | truncated
  | unpairedLow
  | unpairedHigh
  | surrogate
  | notCodePoint
  | partialUnit
  | paddingBits
  | illFormed
  | specialCharacter
  | unterminated
  | illegalSequence
  | incompleteSequence
  | loneBackslash
  | truncatedEscape (letter : Char) (digits : Nat)
  | outOfRange
  | escapeOutOfRange
  | malformedName
  | unknownCharacter
  | unknownSet
deriving DecidableEq

def Reason.message : Reason → String
  | .notAscii => "ordinal not in range(128)"
  | .undefinedByte => "character maps to <undefined>"
  | .startByte => "invalid start byte"
  | .continuation => "invalid continuation byte"
  | .unexpectedEnd => "unexpected end of data"
  | .truncated => "truncated data"
  | .unpairedLow => "illegal encoding"
  | .unpairedHigh => "illegal UTF-16 surrogate"
  | .surrogate => "code point in surrogate code point range(0xd800, 0xe000)"
  | .notCodePoint => "code point not in range(0x110000)"
  | .partialUnit => "partial character in shift sequence"
  | .paddingBits => "non-zero padding bits in shift sequence"
  | .illFormed => "ill-formed sequence"
  | .specialCharacter => "unexpected special character"
  | .unterminated => "unterminated shift sequence"
  | .illegalSequence => "illegal multibyte sequence"
  | .incompleteSequence => "incomplete multibyte sequence"
  | .loneBackslash => "\\ at end of string"
  | .truncatedEscape letter digits =>
    "truncated \\" ++ String.ofList (letter :: List.replicate digits 'X') ++ " escape"
  | .outOfRange => "illegal Unicode character"
  | .escapeOutOfRange => "\\Uxxxxxxxx out of range"
  | .malformedName => "malformed \\N character escape"
  | .unknownCharacter => "unknown Unicode character name"
  | .unknownSet => "internal codec error"

structure Invalid where
  position : Nat
  bytes : List UInt8
  reason : Reason
deriving DecidableEq

/-- What stands at the front of the bytes: characters and how many bytes they take after the
first, or how many bytes after the first are at fault. -/
inductive Front where
  | chars (cs : List Char) (more : Nat)
  | bad (more : Nat) (reason : Reason)

def Front.code (n : Nat) (more : Nat) : Front :=
  .chars (Text.spell n) more

def Front.char (c : Char) (more : Nat) : Front :=
  .code c.toNat more

/-- Decode bytes, the first of which is at `position`. What stands at their front depends on a
state, and may change it. -/
def decodeIn {σ : Type} (front : σ → UInt8 → List UInt8 → σ × Front) (state : σ) (position : Nat) :
    List UInt8 → Except Invalid (List Char)
  | [] => .ok []
  | b :: rest =>
    match front state b rest with
    | (state, .chars cs more) =>
      (decodeIn front state (position + 1 + more) (rest.drop more)).map (cs ++ ·)
    | (_, .bad more reason) => .error ⟨position, b :: rest.take more, reason⟩
termination_by bytes => bytes.length
decreasing_by simp only [List.length_drop, List.length_cons]; omega

def decodeFrom (front : UInt8 → List UInt8 → Front) (position : Nat) (bytes : List UInt8) :
    Except Invalid (List Char) :=
  decodeIn (fun _ b rest => ((), front b rest)) () position bytes

/-! ### Sets of one byte for a character -/

def ascii (b : UInt8) (_ : List UInt8) : Front :=
  if b < 0x80 then .char (Char.ofNat b.toNat) 0 else .bad 0 .notAscii

def latin (b : UInt8) (_ : List UInt8) : Front :=
  .char (Char.ofNat b.toNat) 0

def noCharacter : Char := '\ufffe'

def tabled (table : List Char) (b : UInt8) (_ : List UInt8) : Front :=
  match table[b.toNat]? with
  | some c => if c = noCharacter then .bad 0 .undefinedByte else .char c 0
  | none => .bad 0 .undefinedByte

end Newswire.Charset

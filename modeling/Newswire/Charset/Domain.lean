import Newswire.Charset.Domain.Table
import Newswire.Charset.Error
import Newswire.Charset.Punycode
import Newswire.Text.Case
import Newswire.Text.Normal
import Newswire.Text.Split

/-!
The names of hosts. A name is made of labels between points. A label that is announced as such is
encoded, and only one that is the encoded form of what it stands for is taken.
-/

namespace Newswire.Charset.Domain

/-! ### Parts of bytes -/

def asciiText (bytes : List UInt8) : Except Error (List Char) :=
  (decodeFrom ascii 0 bytes).mapError (.invalid "ascii")

def causeOf : Punycode.Fault → Cause
  | .unfinished => .unfinishedNumber
  | .noDigit c => .noDigit c
  | .beyond n => .beyond n

def hyphen : UInt8 := 0x2D

/-- The text of characters and digits, which the last hyphen parts. -/
def punycode (failed : Cause → Error) (bytes : List UInt8) : Except Error (List Char) := do
  let digits := (bytes.reverse.takeWhile (· != hyphen)).reverse
  let basic ← asciiText (bytes.take (bytes.length - digits.length - 1))
  let digits ← asciiText digits
  let found ← (Punycode.decode basic (digits.map Char.toUpper)).mapError (failed ∘ causeOf)
  pure (found.flatMap Text.spell)

/-! ### Labels -/

def fold (c : Char) : List Char :=
  if Text.Ranges.contains dropped c then []
  else
    match folded.find? fun entry => entry.toList.head? = some c with
    | some entry => entry.toList.drop 1
    | none => (Text.lower (String.singleton c)).toList

def isProhibited (n : Nat) : Bool :=
  Text.isHalf n || Text.Ranges.contains prohibited (Char.ofNat n)

/-- The form of a label in which labels are compared. -/
def prepared (label : List Char) : Except Cause (List Char) :=
  let label := Text.Normal.form (label.flatMap fold)
  let leftwards := label.map (Text.Ranges.contains leftward)
  match (Text.codesOf label).find? isProhibited with
  | some n => .error (.notAllowed n)
  | none =>
    if !leftwards.contains true then .ok label
    else if label.any (Text.Ranges.contains rightward) then .error .bothDirections
    else if leftwards.head? = some true && leftwards.getLast? = some true then .ok label
    else .error .leftwardEnds

def announcement : List Char := "xn--".toList

def checkLength (label : List Char) : Except Cause (List Char) :=
  if 0 < label.length ∧ label.length < 64 then .ok label else .error .labelLength

def encoded (label : List Char) : Except Cause (List Char) := do
  if label.all Punycode.isBasic then checkLength label
  else
    let label ← prepared label
    if label.all Punycode.isBasic then checkLength label
    else if announcement.isPrefixOf label then .error .encodedAlready
    else checkLength (announcement ++ Punycode.encode label)

def label (name : String) (bytes : List UInt8) : Except Error (List Char) := do
  if (announcement.map fun c => c.toNat.toUInt8).isPrefixOf bytes then
    let text ← punycode (fun cause => .failed name (.within "punycode" cause)) (bytes.drop 4)
    let again ← (encoded text).mapError (.failed name)
    let written := bytes.map fun b => Char.ofNat b.toNat
    if written.map Char.toLower = again then pure text else .error (.notSame written again)
  else asciiText bytes

def labels (bytes : List UInt8) : List (List UInt8) :=
  (Text.splitAt '.' (bytes.map fun b => Char.ofNat b.toNat)).map fun part =>
    part.map fun c => c.toNat.toUInt8

def announces : List UInt8 → Bool
  | [] => false
  | b :: rest =>
    (announcement.map fun c => c.toNat.toUInt8).isPrefixOf (b :: rest) || announces rest

/-- The text of the name of a host. A point at its end stays. -/
def decode (name : String) (bytes : List UInt8) : Except Error (List Char) :=
  if !announces bytes && bytes.all (· < 0x80) then asciiText bytes
  else do
    let parts := labels bytes
    let ends := parts.getLast? = some []
    let texts ← (if ends then parts.dropLast else parts).mapM (label name)
    pure (['.'].intercalate texts ++ (if ends then ['.'] else []))

end Newswire.Charset.Domain

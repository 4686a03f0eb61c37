import Newswire.Charset.Basic
import Newswire.Text.Encodable

/-!
Why bytes cannot be decoded: the name of the set means nothing, the bytes mean nothing in the set,
or they break a rule of the set as a whole.
-/

namespace Newswire.Charset

inductive Cause where
  | withoutMeaning
  | unfinishedNumber
  | noDigit (c : Char)
  | beyond (codePoint : Nat)
  | notAllowed (codePoint : Nat)
  | bothDirections
  | leftwardEnds
  | labelLength
  | encodedAlready
  /-- What a part of the bytes was decoded with failed. -/
  | within (charset : String) (cause : Cause)
deriving DecidableEq

def failureText (charset kind why : String) : String :=
  "decoding with '" ++ charset ++ "' codec failed (" ++ kind ++ ": " ++ why ++ ")"

def Cause.message : Cause → String
  | .withoutMeaning => "undefined encoding"
  | .unfinishedNumber => "incomplete punicode string"
  | .noDigit c => "Invalid extended code point '" ++ String.singleton c ++ "'"
  | .beyond n => "Invalid character U+" ++ String.ofList (Nat.toDigits 16 n)
  | .notAllowed n => "Invalid character " ++ Text.quoted (Text.ofCodes [n])
  | .bothDirections => "Violation of BIDI requirement 2"
  | .leftwardEnds => "Violation of BIDI requirement 3"
  | .labelLength => "label empty or too long"
  | .encodedAlready => "Label starts with ACE prefix"
  | .within charset cause => failureText charset "UnicodeError" cause.message

inductive Error where
  | unwritableName (why : Text.LoneHalves)
  | nulInName
  | unknown (name : String)
  /-- The name stands for something else than text. -/
  | notText (name : String)
  | invalid (charset : String) (what : Invalid)
  | failed (name : String) (cause : Cause)
  /-- A single character is asked of a set that has none. -/
  | unknownSet (name : String)
  /-- A label is not the encoded form of what it stands for. -/
  | notSame (label again : List Char)
deriving DecidableEq

def Invalid.place (i : Invalid) : String :=
  match i.bytes with
  | [b] => "byte 0x" ++ String.ofList (Text.hexDigits 2 b.toNat) ++ " in position " ++
      toString i.position
  | bytes => "bytes in position " ++ toString i.position ++ "-" ++
      toString (i.position + bytes.length - 1)

/-- The bytes of a name that are shown when it stands for no text. -/
def nameRoom : Nat := 400

def Error.message : Error → String
  | .unwritableName why => why.message
  | .nulInName => "embedded null character"
  | .unknown name => "unknown encoding: " ++ name
  | .notText name =>
    "'" ++ Text.cut nameRoom name ++
      "' is not a text encoding; use codecs.decode() to handle arbitrary codecs"
  | .invalid charset i =>
    "'" ++ charset ++ "' codec can't decode " ++ i.place ++ ": " ++ i.reason.message
  | .failed name cause => failureText name "UnicodeError" cause.message
  | .unknownSet name => failureText name "RuntimeError" Reason.unknownSet.message
  | .notSame label again =>
    "('IDNA does not round-trip', b" ++ Text.quoted (String.ofList label) ++ ", b" ++
      Text.quoted (String.ofList again) ++ ")"

end Newswire.Charset

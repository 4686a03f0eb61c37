import Newswire.Charset.Domain
import Newswire.Charset.Escape
import Newswire.Charset.Names
import Newswire.Charset.Switched
import Newswire.Charset.Unicode

/-!
Decoding bytes by the name of their character set.
-/

namespace Newswire.Charset

/-- Decode with one front after the other, under the name that messages give to the set. -/
def decodeAs (shown : String) (front : UInt8 → List UInt8 → Front) (bytes : List UInt8) :
    Except Error (List Char) :=
  (decodeFrom front 0 bytes).mapError (.invalid shown)

def orderedName (width : String) : Order → String
  | .little => "utf-" ++ width ++ "-le"
  | .big => "utf-" ++ width ++ "-be"

def decodeMarked (width : String) (size : Nat) (front : Order → UInt8 → List UInt8 → Front)
    (bytes : List UInt8) : Except Error (List Char) :=
  let (order, mark) := orderOf size bytes
  (decodeFrom (front order) mark (bytes.drop mark)).mapError (.invalid (orderedName width order))

def asciiChars : List Char :=
  (List.range 0x80).map Char.ofNat

def table? (charset : String) : Option (List Char) :=
  match upperHalves.lookup charset with
  | some upper => some (asciiChars ++ upper.toList)
  | none => (wholeSets.lookup charset).map String.toList

/-- The fronts of the sets whose characters stand one after the other, with what messages call the
set. -/
def front? (charset : String) : Option (String × (UInt8 → List UInt8 → Front)) :=
  match charset with
  | "utf_8" => some ("utf-8", utf8)
  | "ascii" => some ("ascii", ascii)
  | "latin_1" | "charmap" => some ("latin-1", latin)
  | "utf_16_le" => some (orderedName "16" .little, utf16 .little)
  | "utf_16_be" => some (orderedName "16" .big, utf16 .big)
  | "utf_32_le" => some (orderedName "32" .little, utf32 .little)
  | "utf_32_be" => some (orderedName "32" .big, utf32 .big)
  | "unicode_escape" => some ("unicodeescape", escapes)
  | "raw_unicode_escape" => some ("rawunicodeescape", numberEscapes)
  | "shift_jis" => some (charset, Japanese.shifted)
  | "shift_jis_2004" => some (charset, Japanese.shifted2004 .second)
  | "shift_jisx0213" => some (charset, Japanese.shifted2004 .first)
  | "cp932" => some (charset, Japanese.page932)
  | "euc_jp" => some (charset, asciiOr Japanese.euc)
  | "euc_jis_2004" => some (charset, asciiOr (Japanese.euc2004 .second))
  | "euc_jisx0213" => some (charset, asciiOr (Japanese.euc2004 .first))
  | "euc_kr" => some (charset, asciiOr Korean.euc)
  | "cp949" => some (charset, asciiOr Korean.unified)
  | "johab" => some (charset, asciiOr Korean.johab)
  | "gb2312" => some (charset, asciiOr Chinese.gb)
  | "gbk" => some (charset, asciiOr Chinese.gbk)
  | "gb18030" => some (charset, asciiOr Chinese.gb18030)
  | "big5" => some (charset, asciiOr Chinese.big5)
  | "big5hkscs" => some (charset, asciiOr Chinese.hongKong)
  | "cp950" => some (charset, asciiOr Chinese.page950)
  | charset => (table? charset).map fun table => ("charmap", tabled table)

def decodeSwitched (name charset : String) (flavour : Flavour) (bytes : List UInt8) :
    Except Error (List Char) :=
  (decodeIn flavour.front .initial 0 bytes).mapError fun i =>
    if i.reason = .unknownSet then .unknownSet name else .invalid charset i

def decodeKnown (name charset : String) (bytes : List UInt8) : Except Error (List Char) :=
  match charset with
  | "utf_8_sig" =>
    decodeAs "utf-8" utf8 (if byteOrderMark.isPrefixOf bytes then bytes.drop 3 else bytes)
  | "utf_16" => decodeMarked "16" 2 utf16 bytes
  | "utf_32" => decodeMarked "32" 4 utf32 bytes
  | "utf_7" => (utf7From bytes none 0 bytes).mapError (.invalid "utf7")
  | "hz" => (decodeIn Chinese.seven false 0 bytes).mapError (.invalid charset)
  | "idna" => Domain.decode name bytes
  | "punycode" => Domain.punycode (.failed name) bytes
  | "undefined" => .error (.failed name .withoutMeaning)
  | charset =>
    match front? charset, flavours.lookup charset with
    | some (shown, front), _ => decodeAs shown front bytes
    | none, some flavour => decodeSwitched name charset flavour bytes
    | none, none => .error (if charset ∈ notTexts then .notText name else .unknown name)

/-- Decode bytes. No bytes are no text whatever the name of the set. -/
def decode (name : String) (bytes : List UInt8) : Except Error String :=
  match Text.loneHalves? name, find? name with
  | some why, _ => .error (.unwritableName why)
  | none, known =>
    if '\x00' ∈ name.toList then .error .nulInName
    else if bytes.isEmpty then .ok ""
    else
      match known with
      | none => .error (.unknown name)
      | some charset => (decodeKnown name charset bytes).map String.ofList

end Newswire.Charset

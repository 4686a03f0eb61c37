import Newswire.Text.Case
import Newswire.Text.Digit
import Newswire.Text.Split

/-!
Addresses of feeds. An address is a scheme, `//` and the authority, which ends at the first `/`, `?`
or `#`. Only the schemes of the web are served.
-/

namespace Newswire.Address

open Newswire.Text

inductive Refusal where
  | malformed
  | otherScheme
deriving DecidableEq

def Refusal.message : Refusal → String
  | .malformed => "Invalid URL format"
  | .otherScheme => "Invalid URL format: only http and https are supported"

def isLetter (c : Char) : Bool :=
  c.toNat < 0x80 && c.isAlpha

def isSchemeChar (c : Char) : Bool :=
  isLetter c || (digitValue? c).isSome || c == '+' || c == '-' || c == '.'

/-- The text without controls and spaces before it, and without tabs and line ends anywhere. -/
def cleaned (cs : List Char) : List Char :=
  (cs.dropWhile (·.toNat ≤ 0x20)).filter fun c => !(c == '\t' || c == '\r' || c == '\n')

/-- The scheme in small letters and what follows its colon; an empty one where none stands. -/
def splitScheme (cs : List Char) : List Char × List Char :=
  let scheme := cs.takeWhile (· != ':')
  match cs.dropWhile (· != ':') with
  | _ :: rest =>
    if (scheme.head?.map isLetter).getD false && scheme.all isSchemeChar then
      (scheme.map Char.toLower, rest)
    else ([], cs)
  | [] => ([], cs)

def authority : List Char → List Char
  | '/' :: '/' :: rest => rest.takeWhile fun c => !(c == '/' || c == '?' || c == '#')
  | _ => []

/-! ### Hosts in brackets -/

def isOctet (cs : List Char) : Bool :=
  match number? cs with
  | some n => !cs.isEmpty && cs.length ≤ 3 && n ≤ 255 && (cs = ['0'] || cs.head? != some '0')
  | none => false

def isDotted (cs : List Char) : Bool :=
  let octets := splitAt '.' cs
  octets.length = 4 && octets.all isOctet

def isHextet (cs : List Char) : Bool :=
  !cs.isEmpty && cs.length ≤ 4 && cs.all fun c =>
    (digitValue? c).isSome || (isLetter c && c.toLower ≤ 'f')

/-- The parts between colons, of which four octets at the end count for two. -/
def hextets? (cs : List Char) : Option (List (List Char)) :=
  let parts := splitAt ':' cs
  if parts.length < 3 then none
  else
    let last := parts.getLastD []
    if '.' ∈ last then
      if isDotted last then some (parts.dropLast ++ [['0'], ['0']]) else none
    else some parts

/-- Eight parts, or fewer with one gap, which is an empty part that is neither the first nor the
last. At an end of the address the gap takes the empty part beside it. -/
def areHextets (parts : List (List Char)) : Bool :=
  let inner := (parts.drop 1).dropLast
  match inner.findIdx? List.isEmpty with
  | none => parts.length = 8 && parts.all isHextet
  | some i =>
    let before := parts.take (i + 1)
    let after := parts.drop (i + 2)
    let before := if before = [[]] then [] else before
    let after := if after = [[]] then [] else after
    parts.length ≤ 9 && before.length + after.length ≤ 7 &&
      before.all isHextet && after.all isHextet

def isSixth (cs : List Char) : Bool :=
  let zone := (cs.dropWhile (· != '%')).drop 1
  let zoned := '%' ∈ cs
  (!zoned || (!zone.isEmpty && !zone.contains '%')) &&
    ((hextets? (cs.takeWhile (· != '%'))).map areHextets).getD false

/-- An address of a later version: `v`, the version, a point and a name. -/
def isLater : List Char → Bool
  | 'v' :: rest =>
    let version := rest.takeWhile (· != '.')
    !version.isEmpty && version.all (fun c => isHextet [c]) && 2 ≤ (rest.drop version.length).length
  | _ => false

def isBracketed (host : List Char) : Bool :=
  if host.head? = some 'v' then isLater host else isSixth host

def afterUser (cs : List Char) : List Char :=
  (cs.reverse.takeWhile (· != '@')).reverse

/-- The host of an authority. Brackets around it begin with it, and only a port may follow them; the
first colon ends a host without brackets. -/
def host? (cs : List Char) : Option (List Char) :=
  let place := afterUser cs
  if !place.contains '[' then some (place.takeWhile (· != ':'))
  else
    match place with
    | '[' :: rest =>
      match (rest.dropWhile (· != ']')).drop 1 with
      | [] | ':' :: _ => some (rest.takeWhile (· != ']'))
      | _ => none
    | _ => none

/-- Brackets come in pairs, and where they stand the host is one that may stand in them. -/
def bracketsFit (cs : List Char) : Bool :=
  match cs.contains '[', cs.contains ']' with
  | false, false => true
  | true, true => ((host? cs).map isBracketed).getD false
  | _, _ => false

/-! ### The check -/

/-- The characters whose compatible form holds one of `/ ? # @ :`. -/
def disguised : List Nat :=
  [0x2047, 0x2048, 0x2049, 0x2100, 0x2101, 0x2105, 0x2106, 0x2A74, 0xFE13, 0xFE16, 0xFE55, 0xFE56,
   0xFE5F, 0xFE6B, 0xFF03, 0xFF0F, 0xFF1A, 0xFF1F, 0xFF20]

def schemes : List String := ["http", "https"]

def check (address : Option String) : Except Refusal Unit :=
  let (scheme, rest) := splitScheme (cleaned (address.getD "").toList)
  let place := authority rest
  if !bracketsFit place || place.any (disguised.contains ·.toNat) then .error .malformed
  else if scheme.isEmpty || place.isEmpty then .error .malformed
  else if String.ofList scheme ∈ schemes then .ok ()
  else .error .otherScheme

end Newswire.Address

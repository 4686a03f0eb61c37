import Newswire.Text.Name.Aliases
import Newswire.Text.Name.Alphabets
import Newswire.Text.Name.Ancient
import Newswire.Text.Name.East
import Newswire.Text.Name.Forms
import Newswire.Text.Name.Further
import Newswire.Text.Name.Pictures
import Newswire.Text.Name.Scripts
import Newswire.Text.Name.Signs
import Newswire.Text.Ranges
import Newswire.Text.Split

/-!
The names of characters after Unicode, version 14. Most names are listed; those of the syllables of
Hangul are put together from the names of their letters, and those of ideographs from their numbers.
-/

namespace Newswire.Text.Name

/-- The listed names in blocks: the first code point, what all names of the block begin with, and
what follows it for one code point after the other, between semicolons. A point stands for a code
point without a name. -/
def blocks : List (Nat × String × List String) :=
  alphabets ++ alphabetsMore ++ scripts ++ scriptsMore ++ signs ++ signsMore ++ eastern ++
    easternMore ++ forms ++ ancient ++ ancientMore ++ ancientRest ++ further ++ pictures ++
    picturesMore ++ picturesRest

def inBlock? (name : List Char) (block : Nat × String × List String) : Option Nat :=
  let (first, front, lines) := block
  if front.toList.isPrefixOf name then
    let rest := name.drop front.length
    if rest = ['.'] then none
    else ((lines.flatMap fun line => splitAt ';' line.toList).idxOf? rest).map (first + ·)
  else none

/-! ### Syllables -/

def initials : List String :=
  ["G", "GG", "N", "D", "DD", "R", "M", "B", "BB", "S", "SS", "", "J", "JJ", "C", "K", "T", "P",
   "H"]

def vowels : List String :=
  ["A", "AE", "YA", "YAE", "EO", "E", "YEO", "YE", "O", "WA", "WAE", "OE", "YO", "U", "WEO", "WE",
   "WI", "YU", "EU", "YI", "I"]

/-- The letters that may end a syllable; the first stands for none. -/
def finals : List String :=
  ["", "G", "GG", "GS", "N", "NJ", "NH", "D", "L", "LG", "LM", "LB", "LS", "LT", "LP", "LH", "M",
   "B", "BS", "S", "SS", "NG", "J", "C", "K", "T", "P", "H"]

def longest? (letters : List String) (name : List Char) : Option (Nat × List Char) :=
  let fitting := letters.zipIdx.filter fun l => l.1.toList.isPrefixOf name
  let longer (best l : String × Nat) := if best.1.length < l.1.length then l else best
  match fitting with
  | [] => none
  | l :: rest =>
    let best := rest.foldl longer l
    some (best.2, name.drop best.1.length)

def syllable? (name : List Char) : Option Nat := do
  let (initial, name) ← longest? initials name
  let (vowel, name) ← longest? vowels name
  let (final, name) ← longest? finals name
  if name.isEmpty then some (0xAC00 + (initial * 21 + vowel) * 28 + final) else none

/-! ### Ideographs -/

def ideographs : Ranges :=
  [(0x3400, 0x4DBF), (0x4E00, 0x9FFF), (0x20000, 0x2A6DF), (0x2A700, 0x2B738), (0x2B740, 0x2B81D),
   (0x2B820, 0x2CEA1), (0x2CEB0, 0x2EBE0), (0x30000, 0x3134A)]

def ideograph? (digits : List Char) : Option Nat := do
  let value (c : Char) : Option Nat :=
    if '0' ≤ c ∧ c ≤ '9' then some (c.toNat - '0'.toNat)
    else if 'A' ≤ c ∧ c ≤ 'F' then some (c.toNat - 'A'.toNat + 10)
    else none
  let n := (← digits.mapM value).foldl (fun n d => 16 * n + d) 0
  if (digits.length = 4 ∨ digits.length = 5) ∧ ideographs.contains (Char.ofNat n) then some n
  else none

/-! ### Looking up -/

def selector? (name : List Char) : Option Nat :=
  (List.range 256).findSome? fun i =>
    if name = 'V' :: 'S' :: (toString (i + 1)).toList then
      some (if i < 16 then 0xFE00 + i else 0xE0100 + (i - 16))
    else none

/-- The code point with a name. Letters of any case write a listed name, but only great letters the
names of syllables and ideographs. -/
def find? (name : List Char) : Option Nat :=
  let syllable := "HANGUL SYLLABLE ".toList
  let ideograph := "CJK UNIFIED IDEOGRAPH-".toList
  if syllable.isPrefixOf name then syllable? (name.drop syllable.length)
  else if ideograph.isPrefixOf name then ideograph? (name.drop ideograph.length)
  else
    let name := name.map Char.toUpper
    (blocks.findSome? (inBlock? name)).or
      (((aliases.find? fun a => a.2.toList = name).map Prod.fst).or (selector? name))

end Newswire.Text.Name

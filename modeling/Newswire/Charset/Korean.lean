import Newswire.Charset.Plane.KsX1001

/-!
The character sets of Korea. A syllable of Hangul may also be given by its letters: an initial, a
vowel and, unless it ends in the vowel, a final.
-/

namespace Newswire.Charset.Korean

/-- The syllable of an initial, a vowel and a final, by their numbers; the final 0 is none. -/
def syllable (initial vowel final : Nat) : Char :=
  Char.ofNat (0xAC00 + (initial * 21 + vowel) * 28 + final)

def initials : List Nat := [0, 1, 3, 6, 7, 8, 16, 17, 18, 20, 21, 22, 23, 24, 25, 26, 27, 28, 29]

def finals : List Nat :=
  [0, 1, 2, 3, 4, 5, 6, 8, 9, 10, 11, 12, 13, 14, 15, 16, 17, 19, 20, 21, 22, 23, 25, 26, 27, 28,
   29]

def consonant (n : Nat) : Char := Char.ofNat (0x3131 + n)

def vowel (n : Nat) : Char := Char.ofNat (0x314F + n)

/-! ### Two bytes -/

/-- The filler, which announces a syllable by its letters when it comes first. -/
def filler : Nat := 0xD4

/-- The syllable of three letters, each of which follows the byte A4, as does the filler. -/
def madeUp : List Nat → Option Char
  | [_, a, initial, b, middle, c, final] => do
    if a ≠ 0xA4 ∨ b ≠ 0xA4 ∨ c ≠ 0xA4 ∨ middle < 0xBF ∨ 0xD3 < middle ∨ initial < 0xA1 then none
    else
      let i ← initials.idxOf? (initial - 0xA1)
      let f ← if final = filler then some 0
        else if final < 0xA1 then none
        else (finals.idxOf? (final - 0xA1)).map (· + 1)
      pure (syllable i (middle - 0xBF) f)
  | _ => none

def euc (b : UInt8) (rest : List UInt8) : Front :=
  if b = 0xA4 ∧ rest.head? = some 0xD4 then
    if rest.length < 7 then .bad rest.length .incompleteSequence
    else
      match madeUp ((rest.take 7).map UInt8.toNat) with
      | some c => .char c 7
      | none => .bad 0 .illegalSequence
  else pairFront (upper ksX1001.at?) b rest

def unified (b : UInt8) (rest : List UInt8) : Front :=
  pairFront (fun row cell => (upper ksX1001.at? row cell).or
    (atFirst? [ksX1001Before, ksX1001Beside] row cell)) b rest

/-! ### Five bits for a letter -/

inductive Letter where
  | none
  | some (number : Nat)

def initial? (n : Nat) : Option Letter :=
  if n = 1 then some .none
  else if 2 ≤ n ∧ n ≤ 20 then some (.some (n - 2))
  else none

/-- The vowel of five bits: four runs with gaps of two between them. -/
def vowel? (n : Nat) : Option Letter :=
  if n = 2 then some .none
  else if 3 ≤ n ∧ n ≤ 7 then some (.some (n - 3))
  else if 10 ≤ n ∧ n ≤ 15 then some (.some (n - 5))
  else if 18 ≤ n ∧ n ≤ 23 then some (.some (n - 7))
  else if 26 ≤ n ∧ n ≤ 29 then some (.some (n - 9))
  else none

def final? (n : Nat) : Option Letter :=
  if n = 1 then some .none
  else if 2 ≤ n ∧ n ≤ 17 then some (.some (n - 1))
  else if 19 ≤ n ∧ n ≤ 29 then some (.some (n - 2))
  else none

def written : Letter → Letter → Letter → Option Char
  | .none, .none, .none => some '\u3000'
  | .none, .none, .some f => (finals[f - 1]?).map consonant
  | .none, .some v, .none => some (vowel v)
  | .some i, .none, .none => (initials[i]?).map consonant
  | .some i, .some v, .none => some (syllable i v 0)
  | .some i, .some v, .some f => some (syllable i v f)
  | _, _, _ => none

/-- The character of sixteen bits that hold three letters after a bit that is set. -/
def ofLetters? (bits : Nat) : Option Char := do
  written (← initial? (bits / 1024 % 32)) (← vowel? (bits / 32 % 32)) (← final? (bits % 32))

/-- What is no Hangul, in the rows of KS X 1001, two of them for each first byte. -/
def otherCell? (row cell : Nat) : Option Char :=
  if row < 0xD9 || row = 0xDF || 0xF9 < row then none
  else if cell < 0x31 || (0x80 ≤ cell && cell < 0x91) || cell % 0x80 = 0x7F then none
  else if row = 0xDA && 0xA1 ≤ cell && cell ≤ 0xD3 then none
  else
    let pair := if row < 0xE0 then 2 * (row - 0xD9) else 2 * row - 0x197
    let place := if cell < 0x91 then cell - 0x31 else cell - 0x43
    ksX1001.at? (pair + place / 94 + 0x21) (place % 94 + 0x21)

def johab (b : UInt8) (rest : List UInt8) : Front :=
  pairFront (fun row cell =>
    if row < 0xD8 then ofLetters? (row * 256 + cell) else otherCell? row cell) b rest

end Newswire.Charset.Korean

/-!
Text in the characters of the names of hosts. The characters of ASCII come first; for each of the
others, in the order of their code points, a number says how many steps of a walk through all code
points and all places lie before it.
-/

namespace Newswire.Charset.Punycode

inductive Fault where
  | unfinished
  | noDigit (c : Char)
  | beyond (codePoint : Nat)
deriving DecidableEq

/-! ### Numbers -/

/-- The threshold of a digit: a digit below it ends its number. -/
def threshold (place bias : Nat) : Nat :=
  max 1 (min 26 (36 * (place + 1) - bias))

def digit? (c : Char) : Option Nat :=
  if 'A' ≤ c ∧ c ≤ 'Z' then some (c.toNat - 65)
  else if '0' ≤ c ∧ c ≤ '9' then some (c.toNat - 22)
  else none

def digitChar (n : Nat) : Char :=
  if n < 26 then Char.ofNat (97 + n) else Char.ofNat (22 + n)

/-- Divide by 35 until what is left is small; `steps` counts the divisions. -/
def narrow (delta steps : Nat) : Nat × Nat :=
  if 455 < delta then narrow (delta / 35) (steps + 1) else (delta, steps)
termination_by delta
decreasing_by exact Nat.div_lt_self (by omega) (by omega)

def adapt (delta : Nat) (isFirst : Bool) (count : Nat) : Nat :=
  let delta := if isFirst then delta / 700 else delta / 2
  let (rest, steps) := narrow (delta + delta / count) 0
  36 * steps + 36 * rest / (rest + 38)

/-- Read the digits of a number from `place` on, which has the given weight; answers the number
and the digits that follow it. -/
def readNumber (bias place weight total : Nat) : List Char → Except Fault (Nat × List Char)
  | [] => .error .unfinished
  | c :: rest =>
    match digit? c with
    | none => .error (.noDigit c)
    | some d =>
      let total := total + d * weight
      let t := threshold place bias
      if d < t then .ok (total, rest)
      else readNumber bias (place + 1) (weight * (36 - t)) total rest

theorem length_readNumber {bias place weight total n : Nat} {cs rest : List Char}
    (h : readNumber bias place weight total cs = .ok (n, rest)) : rest.length < cs.length := by
  induction cs generalizing place weight total with
  | nil => simp [readNumber] at h
  | cons c more ih =>
    simp only [readNumber] at h
    split at h
    · simp at h
    · split at h
      · simp only [Except.ok.injEq, Prod.mk.injEq] at h
        simp [h.2]
      · have := ih h
        simp only [List.length_cons]
        omega

def writeNumber (bias place n : Nat) : List Char :=
  let t := threshold place bias
  if n < t then [digitChar n]
  else digitChar (t + (n - t) % (36 - t)) :: writeNumber bias (place + 1) ((n - t) / (36 - t))
termination_by n
decreasing_by
  have h1 : 1 ≤ threshold place bias := Nat.le_max_left _ _
  have h2 : (n - threshold place bias) / (36 - threshold place bias) ≤ n - threshold place bias :=
    Nat.div_le_self _ _
  omega

/-! ### Reading -/

/-- Where a walk stands: at which code point, before which place, and with which bias. -/
structure Walk where
  codePoint : Nat
  place : Nat
  bias : Nat

def insertFrom (isFirst : Bool) (w : Walk) (text : List Nat) (digits : List Char) :
    Except Fault (List Nat) :=
  if digits.isEmpty then .ok text
  else
    match h : readNumber w.bias 0 1 0 digits with
    | .error fault => .error fault
    | .ok (delta, rest) =>
      let steps := w.place + delta
      let codePoint := w.codePoint + steps / (text.length + 1)
      let place := steps % (text.length + 1)
      if 0x10FFFF < codePoint then .error (.beyond codePoint)
      else
        let text := text.take place ++ codePoint :: text.drop place
        insertFrom false ⟨codePoint, place + 1, adapt delta isFirst text.length⟩ text rest
termination_by digits.length
decreasing_by exact length_readNumber h

def Walk.start : Walk := ⟨0x80, 0, 72⟩

def decode (basic digits : List Char) : Except Fault (List Nat) :=
  insertFrom true .start (basic.map Char.toNat) digits

/-! ### Writing -/

def isBasic (c : Char) : Bool := c.toNat < 0x80

/-- The numbers written so far, the steps since the last one, how many characters are placed, and
the bias. -/
structure Written where
  digits : List Char
  steps : Nat
  count : Nat
  bias : Nat

def passOne (basic codePoint : Nat) (w : Written) (c : Char) : Written :=
  if c.toNat < codePoint then { w with steps := w.steps + 1 }
  else if c.toNat = codePoint then
    { digits := w.digits ++ writeNumber w.bias 0 w.steps
      steps := 0
      count := w.count + 1
      bias := adapt w.steps (w.count = basic) (w.count + 1) }
  else w

def writeRounds (text : List Char) (basic last : Nat) (w : Written) : List Nat → Written
  | [] => w
  | n :: rest =>
    let w := { w with steps := w.steps + (n - last) * (w.count + 1) }
    let w := text.foldl (passOne basic n) w
    writeRounds text basic (n + 1) { w with steps := w.steps + 1 } rest

def codePoints (text : List Char) : List Nat :=
  ((text.filter (!isBasic ·)).map Char.toNat).eraseDups.mergeSort

/-- A text in the characters of ASCII. A hyphen parts those that stand for themselves from the
digits. -/
def encode (text : List Char) : List Char :=
  let basic := text.filter isBasic
  let w := writeRounds text basic.length 0x80 ⟨[], 0, basic.length, 72⟩ (codePoints text)
  (if basic.isEmpty then [] else basic ++ ['-']) ++ w.digits

end Newswire.Charset.Punycode

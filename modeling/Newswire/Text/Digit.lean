import Newswire.Text.Ranges

/-!
Decimal digits: those of ASCII, and those of every script that Unicode, version 14, knows.
-/

namespace Newswire.Text

/-- Runs of decimal digits; each begins with a nought and holds whole tens. -/
def decimals : Ranges :=
  [(0x30, 0x39), (0x660, 0x669), (0x6F0, 0x6F9), (0x7C0, 0x7C9), (0x966, 0x96F), (0x9E6, 0x9EF),
   (0xA66, 0xA6F), (0xAE6, 0xAEF), (0xB66, 0xB6F), (0xBE6, 0xBEF), (0xC66, 0xC6F), (0xCE6, 0xCEF),
   (0xD66, 0xD6F), (0xDE6, 0xDEF), (0xE50, 0xE59), (0xED0, 0xED9), (0xF20, 0xF29),
   (0x1040, 0x1049), (0x1090, 0x1099), (0x17E0, 0x17E9), (0x1810, 0x1819), (0x1946, 0x194F),
   (0x19D0, 0x19D9), (0x1A80, 0x1A89), (0x1A90, 0x1A99), (0x1B50, 0x1B59), (0x1BB0, 0x1BB9),
   (0x1C40, 0x1C49), (0x1C50, 0x1C59), (0xA620, 0xA629), (0xA8D0, 0xA8D9), (0xA900, 0xA909),
   (0xA9D0, 0xA9D9), (0xA9F0, 0xA9F9), (0xAA50, 0xAA59), (0xABF0, 0xABF9), (0xFF10, 0xFF19),
   (0x104A0, 0x104A9), (0x10D30, 0x10D39), (0x11066, 0x1106F), (0x110F0, 0x110F9),
   (0x11136, 0x1113F), (0x111D0, 0x111D9), (0x112F0, 0x112F9), (0x11450, 0x11459),
   (0x114D0, 0x114D9), (0x11650, 0x11659), (0x116C0, 0x116C9), (0x11730, 0x11739),
   (0x118E0, 0x118E9), (0x11950, 0x11959), (0x11C50, 0x11C59), (0x11D50, 0x11D59),
   (0x11DA0, 0x11DA9), (0x16A60, 0x16A69), (0x16AC0, 0x16AC9), (0x16B50, 0x16B59),
   (0x1D7CE, 0x1D7FF), (0x1E140, 0x1E149), (0x1E2F0, 0x1E2F9), (0x1E950, 0x1E959),
   (0x1FBF0, 0x1FBF9)]

def decimalValue? (c : Char) : Option Nat :=
  (decimals.find? fun r => r.1 ≤ c.toNat && c.toNat ≤ r.2).map fun r => (c.toNat - r.1) % 10

def digitValue? (c : Char) : Option Nat :=
  if '0' ≤ c ∧ c ≤ '9' then some (c.toNat - '0'.toNat) else none

def number? (cs : List Char) : Option Nat :=
  cs.foldlM (fun n c => (digitValue? c).map (10 * n + ·)) 0

def lastDigits (width n : Nat) : List Char :=
  match width with
  | 0 => []
  | width + 1 => Nat.digitChar (n / Nat.pow 10 width % 10) :: lastDigits width n

/-- A number of at most `width` digits, with noughts before it up to the width. -/
def padded (width n : Nat) : String :=
  String.ofList (lastDigits width n)

theorem length_lastDigits (width n : Nat) : (lastDigits width n).length = width := by
  induction width with
  | zero => rfl
  | succ width ih => simp only [lastDigits, List.length_cons, ih]

theorem digitValue?_digitChar (d : Nat) (h : d < 10) :
    digitValue? (Nat.digitChar d) = some d := by
  have all : ∀ d : Fin 10, digitValue? (Nat.digitChar d.val) = some d.val := by decide
  exact all ⟨d, h⟩

theorem foldlM_lastDigits (width n acc : Nat) :
    (lastDigits width n).foldlM (fun m c => (digitValue? c).map (10 * m + ·)) acc =
      some (acc * Nat.pow 10 width + n % Nat.pow 10 width) := by
  induction width generalizing acc with
  | zero => simp [lastDigits, Nat.mod_one]
  | succ width ih =>
    have hs : Nat.pow 10 (width + 1) = Nat.pow 10 width * 10 := rfl
    have hd : n / Nat.pow 10 width % 10 < 10 := Nat.mod_lt _ (by decide)
    have hm : n % Nat.pow 10 (width + 1) =
        n % Nat.pow 10 width + Nat.pow 10 width * (n / Nat.pow 10 width % 10) := Nat.mod_pow_succ
    simp only [lastDigits, List.foldlM_cons, digitValue?_digitChar _ hd, Option.map_some,
      Option.bind_eq_bind, Option.bind_some, ih, Option.some.injEq]
    rw [hm, hs, Nat.add_mul, Nat.mul_comm 10 acc, Nat.mul_assoc,
      Nat.mul_comm 10 (Nat.pow 10 width),
      Nat.mul_comm (n / Nat.pow 10 width % 10) (Nat.pow 10 width)]
    omega

theorem number?_lastDigits (width n : Nat) :
    number? (lastDigits width n) = some (n % Nat.pow 10 width) := by
  simpa only [number?, Nat.zero_mul, Nat.zero_add] using foldlM_lastDigits width n 0

end Newswire.Text

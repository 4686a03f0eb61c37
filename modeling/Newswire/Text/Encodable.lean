import Newswire.Text.Quoted

/-!
Texts that can be written in bytes, all but those that hold a half of a surrogate pair; and what is
left of them where there is room for some bytes only.
-/

namespace Newswire.Text

/-- Halves of pairs that stand side by side in a text, and where the first one is. -/
structure LoneHalves where
  position : Nat
  halves : List Nat
deriving DecidableEq

def loneHalves? (text : String) : Option LoneHalves :=
  let before := (codes text).takeWhile (!isHalf ·)
  match ((codes text).drop before.length).takeWhile isHalf with
  | [] => none
  | halves => some ⟨before.length, halves⟩

def LoneHalves.message (h : LoneHalves) : String :=
  let place := match h.halves with
    | [n] => "character " ++ quoted (ofCodes [n]) ++ " in position " ++ toString h.position
    | halves => "characters in position " ++ toString h.position ++ "-" ++
        toString (h.position + halves.length - 1)
  "'utf-8' codec can't encode " ++ place ++ ": surrogates not allowed"

/-! ### Room for some bytes -/

def byteCount (n : Nat) : Nat :=
  (Char.ofNat n).utf8Size

def byteLength : List Nat → Nat
  | [] => 0
  | n :: rest => byteCount n + byteLength rest

def replacement : Nat := 0xFFFD

/-- The code points that fit in the room; the first that does not, but for which some room is left,
is replaced. -/
def fitting : (room : Nat) → List Nat → List Nat
  | _, [] => []
  | room, n :: rest =>
    if byteCount n ≤ room then n :: fitting (room - byteCount n) rest
    else if room = 0 then []
    else [replacement]

theorem fitting_of_le {ns : List Nat} {room : Nat} (h : byteLength ns ≤ room) :
    fitting room ns = ns := by
  induction ns generalizing room with
  | nil => simp only [fitting]
  | cons n rest ih =>
    simp only [byteLength] at h
    have hn : byteCount n ≤ room := by omega
    simp only [fitting, if_pos hn]
    rw [ih (by omega)]

def cut (room : Nat) (text : String) : String :=
  ofCodes (fitting room (codes text))

end Newswire.Text

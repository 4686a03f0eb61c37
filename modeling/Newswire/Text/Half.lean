/-!
Texts as lists of code points. Halves of surrogate pairs are code points but no characters, so a
text holds two characters for a half that stands alone: a mark and a private character. The mark
is no character of any script; where a text holds it for its own sake, it is written twice. Main
statement: whatever code points a text is spelled from, they are read back from it.
-/

namespace Newswire.Text

def isHalf (n : Nat) : Bool :=
  0xD800 ≤ n && n ≤ 0xDFFF

def mark : Char := Char.ofNat 0xEFFFE

/-- How far the private character after a mark is above its half. -/
def halfShift : Nat := 0x100000

/-- The characters that a text holds for a code point. -/
def spell (n : Nat) : List Char :=
  if isHalf n then [mark, Char.ofNat (halfShift + n)]
  else if n = mark.toNat then [mark, mark]
  else [Char.ofNat n]

def behindMark (c : Char) : Nat :=
  if c = mark then mark.toNat else c.toNat - halfShift

def codesOf : List Char → List Nat
  | c :: d :: rest =>
    if c = mark then behindMark d :: codesOf rest else c.toNat :: codesOf (d :: rest)
  | cs => cs.map Char.toNat

def codes (text : String) : List Nat :=
  codesOf text.toList

def ofCodes (ns : List Nat) : String :=
  String.ofList (ns.flatMap spell)

theorem isHalf_iff (n : Nat) : isHalf n = true ↔ 0xD800 ≤ n ∧ n ≤ 0xDFFF := by
  simp only [isHalf, Bool.and_eq_true, decide_eq_true_eq]

theorem toNat_ofNat {n : Nat} (h : n ≤ 0x10FFFF) (hn : ¬ isHalf n) : (Char.ofNat n).toNat = n := by
  have valid : n.isValidChar := by
    rw [isHalf_iff] at hn
    unfold Nat.isValidChar
    omega
  rw [Char.ofNat, dif_pos valid]
  rfl

theorem codesOf_cons {c : Char} (h : c ≠ mark) (rest : List Char) :
    codesOf (c :: rest) = c.toNat :: codesOf rest := by
  cases rest with
  | nil => rfl
  | cons d rest => simp only [codesOf, if_neg h]

theorem codesOf_spell_append {n : Nat} (h : n ≤ 0x10FFFF) (cs : List Char) :
    codesOf (spell n ++ cs) = n :: codesOf cs := by
  by_cases hn : isHalf n
  · obtain ⟨low, high⟩ := (isHalf_iff n).mp hn
    have back : (Char.ofNat (halfShift + n)).toNat = halfShift + n := by
      apply toNat_ofNat
      · unfold halfShift
        omega
      · rw [isHalf_iff]
        unfold halfShift
        omega
    have other : Char.ofNat (halfShift + n) ≠ mark := by
      intro e
      have he : halfShift + n = 0xEFFFE := by rw [← back, e]; rfl
      unfold halfShift at he
      omega
    simp only [spell, if_pos hn, List.cons_append, List.nil_append, codesOf, if_true, behindMark,
      if_neg other, back, Nat.add_sub_cancel_left]
  · by_cases hm : n = mark.toNat
    · simp only [spell, if_neg hn, if_pos hm, List.cons_append, List.nil_append, codesOf, if_true,
        behindMark]
      rw [hm]
    · have back := toNat_ofNat h hn
      have other : Char.ofNat n ≠ mark := fun e => hm (by rw [← back, e])
      simp only [spell, if_neg hn, if_neg hm, List.cons_append, List.nil_append,
        codesOf_cons other, back]

theorem codesOf_flatMap_spell {ns : List Nat} (h : ∀ n ∈ ns, n ≤ 0x10FFFF) :
    codesOf (ns.flatMap spell) = ns := by
  induction ns with
  | nil => rfl
  | cons n rest ih =>
    rw [List.flatMap_cons, codesOf_spell_append (h n (List.mem_cons_self ..)),
      ih fun m hm => h m (List.mem_cons_of_mem n hm)]

/-- A text gives back the code points that it was spelled from. -/
theorem codes_ofCodes {ns : List Nat} (h : ∀ n ∈ ns, n ≤ 0x10FFFF) : codes (ofCodes ns) = ns := by
  simp only [codes, ofCodes, String.toList_ofList, codesOf_flatMap_spell h]

end Newswire.Text

import Newswire.Proofs.Seconds.Side
import Newswire.Proofs.Stopping

/-!
Which texts are read as something that is not a number: those that say so by name. The name may
stand in letters of either case, with one sign before it and blanks around it. All other texts that
are read at all give a number, however many digits they have and however far the exponent goes.
-/

namespace Newswire.Text

/-! ### Trimming -/

variable {p : Char → Bool}

theorem exists_trim_eq (p : Char → Bool) (cs : List Char) :
    ∃ before after, cs = before ++ trim p cs ++ after ∧ ∀ c ∈ before ++ after, p c = true := by
  let front := cs.takeWhile p
  let rest := cs.dropWhile p
  refine ⟨front, (rest.reverse.takeWhile p).reverse, ?_, ?_⟩
  · have hfront : front ++ rest = cs := List.takeWhile_append_dropWhile
    have hback : trim p cs ++ (rest.reverse.takeWhile p).reverse = rest := by
      unfold trim
      rw [← List.reverse_append, List.takeWhile_append_dropWhile, List.reverse_reverse]
    rw [List.append_assoc, hback, hfront]
  · intro c hc
    rcases List.mem_append.mp hc with hc | hc
    · exact List.all_eq_true.mp List.all_takeWhile c hc
    · exact List.all_eq_true.mp List.all_takeWhile c (List.mem_reverse.mp hc)

theorem trim_append {before inside after : List Char} (hbefore : ∀ c ∈ before, p c = true)
    (hafter : ∀ c ∈ after, p c = true) (hinside : ∀ c ∈ inside, p c = false) (hne : inside ≠ []) :
    trim p (before ++ inside ++ after) = inside := by
  have hhead : ∀ c ∈ (inside ++ after).head?, p c = false := by
    obtain ⟨first, rest, rfl⟩ := List.exists_cons_of_ne_nil hne
    rintro _ ⟨⟩
    exact hinside first List.mem_cons_self
  have hlast : ∀ c ∈ inside.reverse.head?, p c = false := fun c hc =>
    hinside c (List.mem_reverse.mp (List.mem_of_mem_head? hc))
  unfold trim
  rw [List.append_assoc, dropWhile_append_stop hbefore hhead, List.reverse_append,
    dropWhile_append_stop (fun c hc => hafter c (List.mem_reverse.mp hc)) hlast,
    List.reverse_reverse]

end Newswire.Text

namespace Newswire.Double

open Newswire.Text

/-! ### The name of what is not a number -/

/-- The letters are the name of what is not a number. -/
def IsNaNName (cs : List Char) : Prop :=
  cs.map Char.toLower = "nan".toList

def isEdge (c : Char) : Bool :=
  if c.toNat < 0x7F then isAsciiBlank c else isBlank c

/-- The text says that it is not a number: a sign at most, and the name. -/
def NamesNaN (cs : List Char) : Prop :=
  ∃ sign name, cs = sign ++ name ∧ sign ∈ [[], ['+'], ['-']] ∧ IsNaNName name

/-- The text says that it is not a number, perhaps with blanks around it. -/
def SpellsNaN (text : String) : Prop :=
  ∃ before inside after, text.toList = before ++ inside ++ after ∧
    (∀ c ∈ before ++ after, isEdge c = true) ∧ NamesNaN inside

/-! ### Magnitudes -/

theorem isNaN_ofDecimal (digits : List Char) (exponent : Int) :
    (ofDecimal digits exponent).isNaN = false := by
  unfold ofDecimal
  dsimp only
  split
  · decide
  split
  · decide
  split
  · decide
  · exact isNaN_ofScientific _ _ _

theorem isNaN_readMagnitude {cs : List Char} {x : Float} (h : readMagnitude? cs = some x) :
    x.isNaN = false := by
  unfold readMagnitude? at h
  dsimp only at h
  split at h
  all_goals
    split at h
    · cases h
    · obtain ⟨exponent, _, hx⟩ := Option.bind_eq_some_iff.mp h
      cases hx
      exact isNaN_ofDecimal _ _

theorem isNaN_readUnsigned {cs : List Char} {x : Float} (h : readUnsigned? cs = some x) :
    x.isNaN = true ↔ IsNaNName cs := by
  unfold readUnsigned? at h
  dsimp only at h
  unfold IsNaNName
  split at h
  · next hname =>
    cases h
    have hother : cs.map Char.toLower ≠ "nan".toList := by
      rcases hname with hname | hname
      all_goals
        rw [hname]
        decide
    exact iff_of_false (by decide) hother
  split at h
  · next hname =>
    cases h
    exact iff_of_true (by decide) hname
  · next hname =>
    rw [isNaN_readMagnitude h]
    exact iff_of_false Bool.false_ne_true hname

/-! ### Signs -/

def readSigned? : List Char → Option Float
  | '-' :: rest => (readUnsigned? rest).map fun x => -x
  | '+' :: rest => readUnsigned? rest
  | rest => readUnsigned? rest

def inAscii (cs : List Char) : List Char :=
  if cs.all (·.toNat < 0x80) then cs else toAscii cs

theorem read?_eq (text : String) :
    read? text = (joined? none (inAscii text.toList)).bind fun cs =>
      readSigned? (trim isAsciiBlank cs) := rfl

theorem head_of_isNaNName {c : Char} {cs : List Char} (h : IsNaNName (c :: cs)) :
    c.toLower = 'n' :=
  (List.cons.inj h).1

theorem namesNaN_cons_iff {sign : Char} {cs : List Char} (h : ['-', '+'].contains sign = true) :
    NamesNaN (sign :: cs) ↔ IsNaNName cs := by
  constructor
  · rintro ⟨own, name, heq, hown, hname⟩
    simp only [List.mem_cons, List.not_mem_nil, or_false] at hown
    rcases hown with rfl | rfl | rfl
    · -- a sign is no letter, so the name cannot begin with it
      cases heq
      have hletter := head_of_isNaNName hname
      simp only [List.contains_cons, List.contains_nil, Bool.or_false, Bool.or_eq_true,
        beq_iff_eq] at h
      rcases h with rfl | rfl
      · exact absurd hletter (by decide)
      · exact absurd hletter (by decide)
    · cases heq
      exact hname
    · cases heq
      exact hname
  · intro hname
    refine ⟨[sign], cs, rfl, ?_, hname⟩
    simpa [or_comm] using h

theorem isNaN_readSigned {cs : List Char} {x : Float} (h : readSigned? cs = some x) :
    x.isNaN = true ↔ NamesNaN cs := by
  unfold readSigned? at h
  split at h
  · obtain ⟨y, hy, rfl⟩ := Option.map_eq_some_iff.mp h
    rw [isNaN_neg, isNaN_readUnsigned hy, namesNaN_cons_iff rfl]
  · rw [isNaN_readUnsigned h, namesNaN_cons_iff rfl]
  · next hminus hplus =>
    rw [isNaN_readUnsigned h]
    constructor
    · intro hname
      exact ⟨[], cs, rfl, List.mem_cons_self, hname⟩
    · rintro ⟨sign, name, rfl, hsign, hname⟩
      simp only [List.mem_cons, List.not_mem_nil, or_false] at hsign
      rcases hsign with rfl | rfl | rfl
      · exact hname
      · exact absurd rfl (hplus name)
      · exact absurd rfl (hminus name)

/-! ### Characters that no step of the reader changes -/

/-- Neither a digit nor an underscore nor what marks a text that cannot be read. -/
structure Inert (c : Char) : Prop where
  ascii : c.toNat < 0x7F
  joins : c ≠ '_'
  marks : c ≠ '?'
  counts : digitValue? c = none

theorem inert_of_toNat {c : Char} (hascii : c.toNat < 0x7F) (h : c.toNat < 0x30 ∨ 0x3F < c.toNat)
    (hjoins : c.toNat ≠ 0x5F) : Inert c where
  ascii := hascii
  joins := fun heq => hjoins (congrArg Char.toNat heq)
  marks := fun heq => by
    have hmark : c.toNat = 0x3F := congrArg Char.toNat heq
    omega
  counts := by
    unfold digitValue?
    refine if_neg fun ⟨hlow, hhigh⟩ => ?_
    have hlow : 0x30 ≤ c.toNat := hlow
    have hhigh : c.toNat ≤ 0x39 := hhigh
    omega

theorem inert_of_isAsciiBlank {c : Char} (h : isAsciiBlank c = true) : Inert c := by
  have hle : c.toNat ≤ 0x20 := by
    simp only [isAsciiBlank, Bool.or_eq_true, decide_eq_true_eq, Bool.and_eq_true] at h
    rcases h with rfl | ⟨_, hle⟩
    · exact Nat.le_refl _
    · omega
  exact inert_of_toNat (by omega) (by omega) (by omega)

theorem toNat_of_isNaNName {cs : List Char} (h : IsNaNName cs) {c : Char} (hc : c ∈ cs) :
    0x3F < c.toNat ∧ c.toNat < 0x7F ∧ c.toNat ≠ 0x5F := by
  have hletter : c.toLower ∈ "nan".toList := by
    rw [← h]
    exact List.mem_map_of_mem hc
  unfold Char.toLower at hletter
  split at hletter
  · next hupper =>
    have hlow : 0x41 ≤ c.toNat := hupper.1
    have hhigh : c.toNat ≤ 0x5A := hupper.2
    omega
  · have hsmall : ("nan".toList.all fun d =>
        decide (0x3F < d.toNat ∧ d.toNat < 0x7F ∧ d.toNat ≠ 0x5F)) = true := by decide
    exact of_decide_eq_true (List.all_eq_true.mp hsmall c hletter)

theorem inert_of_namesNaN {cs : List Char} (h : NamesNaN cs) :
    ∀ c ∈ cs, Inert c ∧ isAsciiBlank c = false := by
  obtain ⟨sign, name, rfl, hsign, hname⟩ := h
  intro c hc
  rcases List.mem_append.mp hc with hc | hc
  · have hsigns : ∀ own ∈ [[], ['+'], ['-']], (own.all fun d =>
        decide (d.toNat < 0x30 ∧ d.toNat ≠ 0x5F ∧ isAsciiBlank d = false)) = true := by decide
    obtain ⟨hlow, hjoins, hblank⟩ :=
      of_decide_eq_true (List.all_eq_true.mp (hsigns sign hsign) c hc)
    exact ⟨inert_of_toNat (by omega) (.inl hlow) hjoins, hblank⟩
  · obtain ⟨hlow, hascii, hjoins⟩ := toNat_of_isNaNName hname hc
    refine ⟨inert_of_toNat hascii (.inr hlow) hjoins, Bool.eq_false_iff.mpr fun hblank => ?_⟩
    simp only [isAsciiBlank, Bool.or_eq_true, decide_eq_true_eq, Bool.and_eq_true] at hblank
    rcases hblank with rfl | ⟨_, hle⟩
    · exact absurd hlow (by decide)
    · omega

theorem NamesNaN.ne_nil {cs : List Char} (h : NamesNaN cs) : cs ≠ [] := by
  obtain ⟨sign, name, rfl, _, hname⟩ := h
  intro hnil
  obtain ⟨_, rfl⟩ := List.append_eq_nil_iff.mp hnil
  cases hname

/-! ### Underscores -/

variable {cs ds : List Char}

theorem joined?_of_inert {last : Option Char} (h : ∀ c ∈ cs, Inert c) (hlast : last ≠ some '_') :
    joined? last cs = some cs := by
  induction cs generalizing last with
  | nil => exact if_neg hlast
  | cons c rest ih =>
    obtain ⟨hc, hrest⟩ := List.forall_mem_cons.mp h
    have hnext : some c ≠ some '_' := fun heq => hc.joins (Option.some.inj heq)
    unfold joined?
    simp only [hc.joins, hlast, ih hrest hnext, decide_false, Bool.false_and, Bool.false_eq_true,
      if_false, Option.map_some]

theorem eq_of_joined? {last : Option Char} (h : joined? last cs = some ds)
    (hds : ∀ d ∈ ds, Inert d) (hdigit : last.bind digitValue? = none) (hlast : last ≠ some '_') :
    cs = ds := by
  induction cs generalizing last ds with
  | nil =>
    unfold joined? at h
    rw [if_neg hlast] at h
    exact Option.some.inj h
  | cons c rest ih =>
    unfold joined? at h
    simp only [hdigit, hlast, Option.isSome_none, decide_false, Bool.false_and, Bool.false_eq_true,
      if_false] at h
    split at h
    · cases h
    · next hc =>
      obtain ⟨others, hothers, rfl⟩ := Option.map_eq_some_iff.mp h
      obtain ⟨hown, hinert⟩ := List.forall_mem_cons.mp hds
      have hnext : some c ≠ some '_' := fun heq => hc (Option.some.inj heq)
      rw [ih hothers hinert hown.counts hnext]

/-! ### Other scripts -/

/-- The character in ASCII, if it is there or is a blank. -/
def flat (c : Char) : Char :=
  if c.toNat < 0x7F then c else ' '

theorem toAscii_eq_map (h : ∀ c ∈ cs, c.toNat < 0x7F ∨ isBlank c = true) :
    toAscii cs = cs.map flat := by
  induction cs with
  | nil => rfl
  | cons c rest ih =>
    obtain ⟨hc, hrest⟩ := List.forall_mem_cons.mp h
    rw [toAscii, List.map_cons, flat, ih hrest]
    split
    · rfl
    · next hother => rw [if_pos (hc.resolve_left hother)]

theorem decimalValue?_lt {c : Char} {d : Nat} (h : decimalValue? c = some d) : d < 10 := by
  obtain ⟨run, _, rfl⟩ := Option.map_eq_some_iff.mp h
  exact Nat.mod_lt _ (by decide)

theorem forall_of_toAscii (h : ∀ d ∈ toAscii cs, Inert d) :
    ∀ c ∈ cs, c.toNat < 0x7F ∨ isBlank c = true := by
  induction cs with
  | nil => exact fun _ hc => nomatch hc
  | cons c rest ih =>
    rw [toAscii] at h
    split at h
    · next hascii =>
      exact List.forall_mem_cons.mpr ⟨.inl hascii, ih (List.forall_mem_cons.mp h).2⟩
    split at h
    · next hblank =>
      exact List.forall_mem_cons.mpr ⟨.inr hblank, ih (List.forall_mem_cons.mp h).2⟩
    split at h
    · next d hd =>
      have hcounts := (h _ List.mem_cons_self).counts
      rw [digitValue?_digitChar d (decimalValue?_lt hd)] at hcounts
      cases hcounts
    · exact absurd rfl (h _ List.mem_cons_self).marks

theorem ascii_of_isBlank {c : Char} (h : isBlank c = true) (hlt : c.toNat < 0x80) :
    c.toNat < 0x7F := by
  refine Nat.lt_of_le_of_ne (Nat.le_of_lt_succ hlt) fun heq => ?_
  have hnone : blanks.any (fun r => r.1 ≤ 0x7F && 0x7F ≤ r.2) = false := by decide
  unfold isBlank Ranges.contains at h
  rw [heq, hnone] at h
  cases h

theorem inAscii_eq_map (h : ∀ c ∈ cs, c.toNat < 0x7F ∨ isBlank c = true) :
    inAscii cs = cs.map flat := by
  unfold inAscii
  split
  · next hall =>
    have hid : ∀ c ∈ cs, flat c = id c := by
      intro c hc
      have hlt : c.toNat < 0x80 := of_decide_eq_true (List.all_eq_true.mp hall c hc)
      exact if_pos ((h c hc).elim id fun hblank => ascii_of_isBlank hblank hlt)
    rw [List.map_congr_left hid, List.map_id]
  · exact toAscii_eq_map h

theorem forall_of_inAscii (h : ∀ d ∈ inAscii cs, Inert d) :
    ∀ c ∈ cs, c.toNat < 0x7F ∨ isBlank c = true := by
  unfold inAscii at h
  split at h
  · exact fun c hc => .inl (h c hc).ascii
  · exact forall_of_toAscii h

theorem isEdge_iff (c : Char) :
    isEdge c = true ↔ (c.toNat < 0x7F ∨ isBlank c = true) ∧ isAsciiBlank (flat c) = true := by
  unfold isEdge flat
  split
  · next hascii => exact ⟨fun h => ⟨.inl hascii, h⟩, fun h => h.2⟩
  · next hother => exact ⟨fun h => ⟨.inr h, rfl⟩, fun h => h.1.resolve_left hother⟩

/-! ### The whole text -/

variable {before inside after : List Char}

theorem forall_mem_three {P : Char → Prop} (hedges : ∀ c ∈ before ++ after, P c)
    (hinside : ∀ c ∈ inside, P c) : ∀ c ∈ before ++ inside ++ after, P c := by
  obtain ⟨hbefore, hafter⟩ := List.forall_mem_append.mp hedges
  exact List.forall_mem_append.mpr ⟨List.forall_mem_append.mpr ⟨hbefore, hinside⟩, hafter⟩

theorem inAscii_of_parts (hedges : ∀ c ∈ before ++ after, isEdge c = true)
    (hinside : ∀ c ∈ inside, Inert c) :
    inAscii (before ++ inside ++ after) = before.map flat ++ inside ++ after.map flat := by
  have hall : ∀ c ∈ before ++ inside ++ after, c.toNat < 0x7F ∨ isBlank c = true :=
    forall_mem_three (fun c hc => ((isEdge_iff c).mp (hedges c hc)).1)
      fun c hc => .inl (hinside c hc).ascii
  have hflat : inside.map flat = inside := by
    have hid : ∀ c ∈ inside, flat c = id c := fun c hc => if_pos (hinside c hc).ascii
    rw [List.map_congr_left hid, List.map_id]
  rw [inAscii_eq_map hall, List.map_append, List.map_append, hflat]

theorem exists_parts_of_inAscii (h : inAscii cs = before ++ inside ++ after)
    (hblank : ∀ c ∈ before ++ after, isAsciiBlank c = true)
    (hinside : ∀ c ∈ inside, Inert c ∧ isAsciiBlank c = false) :
    ∃ front back, cs = front ++ inside ++ back ∧ ∀ c ∈ front ++ back, isEdge c = true := by
  have hall : ∀ c ∈ cs, c.toNat < 0x7F ∨ isBlank c = true := by
    refine forall_of_inAscii ?_
    rw [h]
    exact forall_mem_three (fun c hc => inert_of_isAsciiBlank (hblank c hc))
      fun c hc => (hinside c hc).1
  rw [inAscii_eq_map hall] at h
  obtain ⟨rest, back, rfl, hrest, hback⟩ := List.map_eq_append_iff.mp h
  obtain ⟨front, own, rfl, hfront, hown⟩ := List.map_eq_append_iff.mp hrest
  have hsame : own = inside := by
    have hid : ∀ c ∈ own, flat c = id c := by
      intro c hc
      have hletter : isAsciiBlank (flat c) = false := (hinside _ (hown ▸ List.mem_map_of_mem hc)).2
      refine if_pos (Classical.byContradiction fun hother => ?_)
      rw [flat, if_neg hother] at hletter
      cases hletter
    rw [← hown, List.map_congr_left hid, List.map_id]
  refine ⟨front, back, by rw [hsame], fun c hc => (isEdge_iff c).mpr ⟨hall c ?_, hblank _ ?_⟩⟩
  · rcases List.mem_append.mp hc with hc | hc
    · exact List.mem_append_left _ (List.mem_append_left _ hc)
    · exact List.mem_append_right _ hc
  · rw [← hfront, ← hback, ← List.map_append]
    exact List.mem_map_of_mem hc

/-- A text spells what is not a number exactly when the reader comes upon that name. -/
theorem spellsNaN_iff {text : String} : SpellsNaN text ↔
    ∃ cs, joined? none (inAscii text.toList) = some cs ∧ NamesNaN (trim isAsciiBlank cs) := by
  have hstart : (none : Option Char) ≠ some '_' := fun heq => nomatch heq
  constructor
  · rintro ⟨before, inside, after, htext, hedges, hnames⟩
    have hown := inert_of_namesNaN hnames
    have hascii := inAscii_of_parts hedges fun c hc => (hown c hc).1
    have hblank : ∀ c ∈ before.map flat ++ after.map flat, isAsciiBlank c = true := by
      intro c hc
      rw [← List.map_append] at hc
      obtain ⟨d, hd, rfl⟩ := List.mem_map.mp hc
      exact ((isEdge_iff d).mp (hedges d hd)).2
    have hinert : ∀ c ∈ before.map flat ++ inside ++ after.map flat, Inert c :=
      forall_mem_three (fun c hc => inert_of_isAsciiBlank (hblank c hc)) fun c hc => (hown c hc).1
    obtain ⟨hbefore, hafter⟩ := List.forall_mem_append.mp hblank
    refine ⟨_, by rw [htext, hascii, joined?_of_inert hinert hstart], ?_⟩
    rw [trim_append hbefore hafter (fun c hc => (hown c hc).2) hnames.ne_nil]
    exact hnames
  · rintro ⟨cs, hjoined, hnames⟩
    -- what was read has neither digits nor marks in it, so the text was no other
    obtain ⟨before, after, hcs, hblank⟩ := exists_trim_eq isAsciiBlank cs
    have hown := inert_of_namesNaN hnames
    have hinert : ∀ c ∈ cs, Inert c := by
      rw [hcs]
      exact forall_mem_three (fun c hc => inert_of_isAsciiBlank (hblank c hc))
        fun c hc => (hown c hc).1
    have hascii : inAscii text.toList = cs := eq_of_joined? hjoined hinert rfl hstart
    obtain ⟨front, back, htext, hedges⟩ := exists_parts_of_inAscii (hascii.trans hcs) hblank hown
    exact ⟨front, _, back, htext, hedges, hnames⟩

theorem isNaN_read {text : String} {x : Float} (h : read? text = some x) :
    x.isNaN = true ↔ SpellsNaN text := by
  rw [read?_eq] at h
  obtain ⟨cs, hcs, hsigned⟩ := Option.bind_eq_some_iff.mp h
  rw [isNaN_readSigned hsigned, spellsNaN_iff]
  constructor
  · intro hnames
    exact ⟨cs, hcs, hnames⟩
  · rintro ⟨own, hown, hnames⟩
    obtain rfl := Option.some.inj (hown.symm.trans hcs)
    exact hnames

end Newswire.Double

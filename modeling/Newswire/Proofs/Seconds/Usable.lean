import Newswire.Preferences
import Newswire.Proofs.Seconds.Spelling
import Newswire.Proofs.Timetable
import Newswire.Timer.Clockwork

/-!
Which times pass the checks, and what the timer makes of them. The checks refuse a period that is
not above nought and a delay below it by asking whether it is at or below; what is not a number is
neither, so it passes. With numbers that passed, no run is ever due at a time that is not a number.
With one that is none, all runs are from then on, and the timer waits for none of them.
-/

namespace Newswire

namespace Timer

/-! ### Turns -/

/-- One turn of a timer: the clock before it, and the time at which the run is due. -/
structure Turn (α : Type) where
  clock : α
  due : α

section

variable {α : Type} [Add α] [Sub α] [Zero α] [LT α] [DecidableLT α]

def Turn.wait (t : Turn α) : α :=
  greater 0 (t.due - t.clock)

def Turn.start (t : Turn α) : α :=
  t.clock + t.wait

/-- The turns of a timer, until it is told to stop. -/
def turns (period : α) (t : Turn α) : List (Run α) → List (Turn α)
  | [] => []
  | r :: rest =>
    let done := t.start + r.takes
    t :: if r.stop then [] else turns period ⟨done, greater (t.due + period) done⟩ rest

theorem steps_eq_turns (period : α) (t : Turn α) (runs : List (Run α)) :
    steps period t.clock t.due runs
      = (((turns period t runs).zip runs).flatMap fun p => turn p.1.wait p.1.start p.2)
        ++ [.stopped] := by
  induction runs generalizing t with
  | nil => rfl
  | cons r rest ih =>
    have hrest := ih ⟨t.start + r.takes, greater (t.due + period) (t.start + r.takes)⟩
    unfold steps turns
    dsimp only
    rw [List.zip_cons_cons, List.flatMap_cons]
    cases r.stop with
    | true =>
      rw [if_pos rfl, if_pos rfl, List.zip_nil_left, List.flatMap_nil, List.append_nil]
      rfl
    | false =>
      rw [if_neg Bool.false_ne_true, if_neg Bool.false_ne_true, List.append_assoc, ← hrest]
      rfl

end

/-! ### Times that are numbers -/

open Double

theorem wait_eq (t : Turn Float) :
    t.wait = if 0.0 < t.due - t.clock then t.due - t.clock else 0.0 := by
  have hnought : (0 : Float) = 0.0 := by decide
  unfold Turn.wait greater
  rw [hnought]

theorem nought_le_wait (t : Turn Float) : 0.0 ≤ t.wait := by
  rw [wait_eq]
  split
  · next hlate => exact nought_le_of_lt hlate
  · decide

theorem nought_le_greater {a b : Float} (ha : 0.0 ≤ a) (hb : 0.0 ≤ b) : 0.0 ≤ greater a b := by
  unfold greater
  split
  · exact hb
  · exact ha

variable {period : Float} {t : Turn Float} {runs : List (Run Float)}

/-- With numbers that are not below nought, every time at which a run is due is one. -/
theorem nought_le_due (hperiod : 0.0 ≤ period) (hclock : 0.0 ≤ t.clock) (hdue : 0.0 ≤ t.due)
    (htakes : ∀ r ∈ runs, 0.0 ≤ r.takes) : ∀ u ∈ turns period t runs, 0.0 ≤ u.due := by
  induction runs generalizing t with
  | nil => exact fun _ hu => nomatch hu
  | cons r rest ih =>
    obtain ⟨hown, hrest⟩ := List.forall_mem_cons.mp htakes
    have hstart : 0.0 ≤ t.start := nought_le_add hclock (nought_le_wait t)
    have hdone : 0.0 ≤ t.start + r.takes := nought_le_add hstart hown
    have hnext : 0.0 ≤ greater (t.due + period) (t.start + r.takes) :=
      nought_le_greater (nought_le_add hdue hperiod) hdone
    unfold turns
    refine List.forall_mem_cons.mpr ⟨hdue, ?_⟩
    split
    · exact fun _ hu => nomatch hu
    · exact ih hdone hnext hrest

theorem rushes_of_isNaN (hdue : t.due.isNaN = true) :
    ∀ u ∈ turns period t runs, u.due.isNaN = true ∧ u.wait = 0.0 := by
  induction runs generalizing t with
  | nil => exact fun _ hu => nomatch hu
  | cons r rest ih =>
    have hwait : t.wait = 0.0 := by
      rw [wait_eq, if_neg (not_nought_lt_of_isNaN (isNaN_sub hdue t.clock))]
    have hsum : (t.due + period).isNaN = true := isNaN_add (.inl hdue)
    -- the greater of two is the first unless the second is greater, and none is greater than this
    have hnext : (greater (t.due + period) (t.start + r.takes)).isNaN = true := by
      unfold greater
      rw [if_neg (not_lt_of_isNaN hsum)]
      exact hsum
    unfold turns
    refine List.forall_mem_cons.mpr ⟨⟨hdue, hwait⟩, ?_⟩
    split
    · exact fun _ hu => nomatch hu
    · exact ih hnext

/-- After a period that is not a number, only the first run can be due at a time that is one. -/
theorem rushes_after_first (hperiod : period.isNaN = true) :
    ∀ u ∈ (turns period t runs).tail, u.due.isNaN = true ∧ u.wait = 0.0 := by
  cases runs with
  | nil => exact fun _ hu => nomatch hu
  | cons r rest =>
    have hsum : (t.due + period).isNaN = true := isNaN_add (.inr hperiod)
    unfold turns
    rw [List.tail_cons]
    split
    · exact fun _ hu => nomatch hu
    · refine rushes_of_isNaN ?_
      show (greater (t.due + period) _).isNaN = true
      unfold greater
      rw [if_neg (not_lt_of_isNaN hsum)]
      exact hsum

end Timer

namespace Preferences

open Double Timer

/-! ### What the checks let through -/

/-- The variable is given and spells what is not a number. -/
def SaysNaN (written : Option String) : Prop :=
  ∃ text, written = some text ∧ SpellsNaN text

theorem isNaN_seconds {written : Option String} {usual x : Float} (husual : usual.isNaN = false)
    (h : seconds written usual = .ok x) : x.isNaN = true ↔ SaysNaN written := by
  unfold seconds at h
  cases written with
  | none =>
    cases h
    rw [husual]
    exact iff_of_false Bool.false_ne_true fun ⟨_, hnone, _⟩ => nomatch hnone
  | some text =>
    dsimp only at h
    split at h
    · next own hown =>
      cases h
      rw [isNaN_read hown]
      constructor
      · intro hspells
        exact ⟨text, rfl, hspells⟩
      · rintro ⟨_, ⟨⟩, hspells⟩
        exact hspells
    · cases h

variable {named : String → Option String}

theorem read_eq_ok_iff {p : Preferences} : read named = .ok p ↔
    ∃ period delay, seconds (named "FEEDCHAT_REFRESH_PERIOD") usual.period = .ok period ∧
      seconds (named "FEEDCHAT_INITIAL_DELAY") usual.delay = .ok delay ∧
      ¬ period ≤ 0.0 ∧ ¬ delay < 0.0 ∧
      p = ⟨(named "FEEDCHAT_DB_PATH").getD usual.store, period, delay,
        Text.upper ((named "FEEDCHAT_LOG_LEVEL").getD usual.level)⟩ := by
  unfold read
  constructor
  · intro h
    obtain ⟨period, hperiod, h⟩ := bind_eq_ok.mp h
    obtain ⟨delay, hdelay, h⟩ := bind_eq_ok.mp h
    by_cases hlow : period ≤ 0.0
    · rw [if_pos hlow] at h
      cases h
    · rw [if_neg hlow] at h
      by_cases hearly : delay < 0.0
      · rw [if_pos hearly] at h
        cases h
      · rw [if_neg hearly] at h
        exact ⟨period, delay, hperiod, hdelay, hlow, hearly, (Except.ok.inj h).symm⟩
  · rintro ⟨period, delay, hperiod, hdelay, hlow, hearly, rfl⟩
    rw [hperiod, hdelay]
    simp only [bind, Except.bind, if_neg hlow, if_neg hearly]
    rfl

theorem usable_iff {p : Preferences} (h : read named = .ok p) :
    (p.period.isNaN = true ↔ SaysNaN (named "FEEDCHAT_REFRESH_PERIOD")) ∧
    (0.0 < p.period ↔ ¬ SaysNaN (named "FEEDCHAT_REFRESH_PERIOD")) ∧
    (p.delay.isNaN = true ↔ SaysNaN (named "FEEDCHAT_INITIAL_DELAY")) ∧
    (0.0 ≤ p.delay ↔ ¬ SaysNaN (named "FEEDCHAT_INITIAL_DELAY")) := by
  obtain ⟨period, delay, hperiod, hdelay, hlow, hearly, rfl⟩ := read_eq_ok_iff.mp h
  have hsaid := isNaN_seconds (by decide) hperiod
  have hsaid' := isNaN_seconds (by decide) hdelay
  refine ⟨hsaid, ?_, hsaid', ?_⟩
  · rw [← hsaid, nought_lt_iff_of_not_le hlow, Bool.not_eq_true]
  · rw [← hsaid', nought_le_iff_of_not_lt hearly, Bool.not_eq_true]

theorem make_real (delay : Span) (x : Float) : Clockwork.make delay (.real x) =
    if x ≤ 0.0 then .error .noPeriod else .ok ⟨delay, .real x, [], none⟩ := by
  unfold Clockwork.make Span.isNone
  simp only [decide_eq_true_eq]

theorem exists_make {x : Float} (delay : Span) (h : ¬ x ≤ 0.0) :
    ∃ c, Clockwork.make delay (.real x) = .ok c ∧ c.period = .real x := by
  rw [make_real, if_neg h]
  exact ⟨⟨delay, .real x, [], none⟩, rfl, rfl⟩

theorem made_unless_low (delay : Span) (x : Float) :
    Clockwork.make delay (.real x) = .error .noPeriod ∨
      ∃ c, Clockwork.make delay (.real x) = .ok c ∧ c.period = .real x ∧
        (0.0 < x ↔ x.isNaN = false) := by
  by_cases hlow : x ≤ 0.0
  · have hrefused : Clockwork.make delay (.real x) = .error .noPeriod := by
      rw [make_real, if_pos hlow]
    exact Or.inl hrefused
  · obtain ⟨c, hmade, hperiod⟩ := exists_make delay hlow
    exact Or.inr ⟨c, hmade, hperiod, nought_lt_iff_of_not_le hlow⟩

/-- Times that were read, and the period of a clockwork that was made, are fit for the timer unless
they are not numbers, which the checks do not notice. A variable that is not refused and does not
spell that gives a period above nought, or a delay not below it, and with these every run is due at
a time that is a number. Where one does spell it, no run after the first is due at a time that is a
number, and the timer waits for none. -/
theorem usable_unless_nan {p : Preferences} (h : read named = .ok p) :
    ((0.0 < p.period ↔ ¬ SaysNaN (named "FEEDCHAT_REFRESH_PERIOD")) ∧
      (0.0 ≤ p.delay ↔ ¬ SaysNaN (named "FEEDCHAT_INITIAL_DELAY"))) ∧
    (∀ (clock : Float) (runs : List (Run Float)),
      let turns := turns p.period ⟨clock, clock + p.delay⟩ runs
      trace p.delay p.period clock runs
        = ((turns.zip runs).flatMap fun t => turn t.1.wait t.1.start t.2) ++ [.stopped] ∧
      (¬ SaysNaN (named "FEEDCHAT_REFRESH_PERIOD") → ¬ SaysNaN (named "FEEDCHAT_INITIAL_DELAY") →
        0.0 ≤ clock → (∀ r ∈ runs, 0.0 ≤ r.takes) →
        ∀ t ∈ turns, 0.0 ≤ t.due ∧ t.due.isNaN = false) ∧
      (SaysNaN (named "FEEDCHAT_INITIAL_DELAY") →
        ∀ t ∈ turns, t.due.isNaN = true ∧ t.wait = 0.0) ∧
      (SaysNaN (named "FEEDCHAT_REFRESH_PERIOD") →
        ∀ t ∈ turns.tail, t.due.isNaN = true ∧ t.wait = 0.0)) ∧
    ∀ (delay : Span) (x : Float), Clockwork.make delay (.real x) = .error .noPeriod ∨
      ∃ c, Clockwork.make delay (.real x) = .ok c ∧ c.period = .real x ∧
        (0.0 < x ↔ x.isNaN = false) := by
  obtain ⟨hperiod, hpositive, hdelay, hnonnegative⟩ := usable_iff h
  refine ⟨⟨hpositive, hnonnegative⟩, fun clock runs => ?_, made_unless_low⟩
  intro turns
  refine ⟨steps_eq_turns p.period ⟨clock, clock + p.delay⟩ runs, ?_, ?_, ?_⟩
  · intro hnumber hnumber' hclock htakes t ht
    have hfirst : 0.0 ≤ clock + p.delay := nought_le_add hclock (hnonnegative.mpr hnumber')
    have hperiod' : 0.0 ≤ p.period := nought_le_of_lt (hpositive.mpr hnumber)
    have hdue : 0.0 ≤ t.due :=
      nought_le_due (t := ⟨clock, clock + p.delay⟩) hperiod' hclock hfirst htakes t ht
    exact ⟨hdue, Bool.eq_false_iff.mpr fun hnan => not_nought_le_of_isNaN hnan hdue⟩
  · intro hsaid
    have hfirst : (clock + p.delay).isNaN = true := isNaN_add (.inr (hdelay.mpr hsaid))
    exact rushes_of_isNaN (t := ⟨clock, clock + p.delay⟩) hfirst
  · intro hsaid
    exact rushes_after_first (hperiod.mpr hsaid)

def timed (period delay : String) (name : String) : Option String :=
  [("FEEDCHAT_REFRESH_PERIOD", period), ("FEEDCHAT_INITIAL_DELAY", delay)].lookup name

theorem exists_read_timed {period delay : String} {x y : Float} (hx : read? period = some x)
    (hy : read? delay = some y) (hlow : ¬ x ≤ 0.0) (hearly : ¬ y < 0.0) :
    ∃ p, read (timed period delay) = .ok p ∧ p.period = x ∧ p.delay = y := by
  have hseconds {text : String} {z : Float} (hz : read? text = some z) (usual : Float) :
      seconds (some text) usual = .ok z := by
    unfold seconds
    dsimp only
    rw [hz]
  refine ⟨_, read_eq_ok_iff.mpr ⟨x, y, ?_, ?_, hlow, hearly, rfl⟩, rfl, rfl⟩
  · exact hseconds hx _
  · exact hseconds hy _

/-- The smallest period above nought is let through, and so is a delay of nought with a sign. -/
theorem smallest_period_usable :
    ∃ p, read (timed "4.9e-324" " -0_0.0 ") = .ok p ∧ 0.0 < p.period ∧ 0.0 ≤ p.delay ∧
      ∀ t ∈ turns p.period ⟨7.0, 7.0 + p.delay⟩ [⟨1.5, none, false⟩, ⟨0.0, none, false⟩],
        t.due.isNaN = false := by
  have hperiod : read? "4.9e-324" = some (Float.ofBits 1) := by decide +kernel
  have hdelay : read? " -0_0.0 " = some (-0.0) := by decide +kernel
  obtain ⟨p, hread, _⟩ := exists_read_timed hperiod hdelay (by decide +kernel) (by decide +kernel)
  have hnumber : ¬ SaysNaN (timed "4.9e-324" " -0_0.0 " "FEEDCHAT_REFRESH_PERIOD") := by
    rintro ⟨_, ⟨⟩, hspells⟩
    exact absurd ((isNaN_read hperiod).mpr hspells) (by decide +kernel)
  have hnumber' : ¬ SaysNaN (timed "4.9e-324" " -0_0.0 " "FEEDCHAT_INITIAL_DELAY") := by
    rintro ⟨_, ⟨⟩, hspells⟩
    exact absurd ((isNaN_read hdelay).mpr hspells) (by decide +kernel)
  obtain ⟨⟨hpositive, hnonnegative⟩, hrun, _⟩ := usable_unless_nan hread
  obtain ⟨_, hdue, _⟩ := hrun 7.0 [⟨1.5, none, false⟩, ⟨0.0, none, false⟩]
  refine ⟨p, hread, hpositive.mpr hnumber, hnonnegative.mpr hnumber', fun t ht => ?_⟩
  refine (hdue hnumber hnumber' (by decide +kernel) ?_ t ht).2
  exact List.forall_mem_cons.mpr ⟨by decide +kernel,
    List.forall_mem_singleton.mpr (by decide +kernel)⟩

/-- It is not so that whatever the checks let through is above nought: what is not a number passes
both of them, and the timer then waits for the first run only. -/
theorem nan_passes_checks :
    ∃ p, read (timed "nan" "150") = .ok p ∧ ¬ 0.0 < p.period ∧
      (∃ c, Clockwork.make (.real p.delay) (.real p.period) = .ok c) ∧
      (turns p.period ⟨0.0, 0.0 + p.delay⟩
          [⟨1.0, none, false⟩, ⟨1.0, none, false⟩, ⟨1.0, none, false⟩]).map Turn.wait
        = [150.0, 0.0, 0.0] := by
  have hperiod : read? "nan" = some (0.0 / 0.0) := by decide +kernel
  have hdelay : read? "150" = some 150.0 := by decide +kernel
  obtain ⟨p, hread, hp, hd⟩ :=
    exists_read_timed hperiod hdelay (by decide +kernel) (by decide +kernel)
  refine ⟨p, hread, ?_, ?_, ?_⟩
  · rw [hp]
    decide +kernel
  · rw [hp]
    obtain ⟨c, hmade, _⟩ := exists_make (.real p.delay) (x := 0.0 / 0.0) (by decide +kernel)
    exact ⟨c, hmade⟩
  · rw [hp, hd]
    decide +kernel

end Preferences

end Newswire

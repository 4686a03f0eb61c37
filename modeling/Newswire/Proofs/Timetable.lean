import Mathlib.Algebra.BigOperators.Group.List.Defs
import Mathlib.Algebra.Order.Group.Int
import Mathlib.Algebra.Order.Group.MinMax
import Mathlib.Algebra.Ring.Int.Defs
import Newswire.Proofs.Stopping
import Newswire.Timer.Recurrence

/-!
When the runs of a timer start, in exact numbers. Before each run the clock is not past the time at
which the run is due, and this is all that one turn needs to know: the run then starts when it is
due, and the next one is due one period later, or as much later as the run takes. From this come the
times of all runs, how long the timer waits for each, and that neither depends on which runs fail.
-/

namespace Newswire.Timer

/-! ### Runs and steps -/

/-- The runs that take place: those up to the first during which the timer is told to stop. -/
def performed {α : Type} (runs : List (Run α)) : List (Run α) :=
  upTo Run.stop runs

def Run.calm {α : Type} (r : Run α) : Run α :=
  { r with fault := none }

theorem performed_map_calm {α : Type} (runs : List (Run α)) :
    performed (runs.map Run.calm) = (performed runs).map Run.calm := by
  have hstop : Run.stop ∘ Run.calm = (Run.stop : Run α → Bool) := rfl
  unfold performed upTo
  rw [List.findIdx_map, hstop, List.map_take]

def Run.note? {α : Type} (r : Run α) : Option Journal.Note :=
  r.fault.map fun fault => ⟨.error, .timer, failureText, some fault⟩

def Step.isTimed {α : Type} : Step α → Bool
  | .failed _ => false
  | _ => true

/-- What the timer does about one run: it waits, runs, and goes on if the run failed. -/
def turn {α : Type} (wait start : α) (r : Run α) : List (Step α) :=
  .wait wait :: .run start :: (r.fault.map .failed).toList

/-- What the timer does about some runs, given when each of them starts and how long it waits for
it; then it is stopped. -/
def unrolled {α : Type} (start wait : Nat → α) (runs : List (Run α)) : List (Step α) :=
  (runs.zipIdx.flatMap fun p => turn (wait p.2) (start p.2) p.1) ++ [.stopped]

section

variable {α : Type}

theorem unrolled_cons (start wait : Nat → α) (r : Run α) (rest : List (Run α)) :
    unrolled start wait (r :: rest) = turn (wait 0) (start 0) r ++
      unrolled (fun k => start (k + 1)) (fun k => wait (k + 1)) rest := by
  unfold unrolled
  rw [List.zipIdx_cons, List.zipIdx_succ, List.flatMap_cons, List.flatMap_map, List.append_assoc]

theorem filter_turn (wait start : α) (r : Run α) :
    (turn wait start r).filter Step.isTimed = turn wait start r.calm := by
  unfold turn Run.calm
  cases r.fault <;> rfl

theorem filterMap_turn (wait start : α) (r : Run α) :
    (turn wait start r).filterMap Step.note? = r.note?.toList := by
  unfold turn Run.note?
  cases r.fault <;> rfl

theorem filter_unrolled (start wait : Nat → α) (runs : List (Run α)) :
    (unrolled start wait runs).filter Step.isTimed = unrolled start wait (runs.map Run.calm) := by
  induction runs generalizing start wait with
  | nil => rfl
  | cons r rest ih =>
    rw [List.map_cons, unrolled_cons, unrolled_cons, List.filter_append, filter_turn, ih]

theorem filterMap_unrolled (start wait : Nat → α) (runs : List (Run α)) :
    (unrolled start wait runs).filterMap Step.note? = runs.filterMap Run.note? := by
  induction runs generalizing start wait with
  | nil => rfl
  | cons r rest ih =>
    rw [unrolled_cons, List.filterMap_append, filterMap_turn, ih, List.filterMap_cons]
    cases r.note? <;> rfl

end

/-! ### Times -/

theorem greater_eq_max {α : Type} [LinearOrder α] (a b : α) : greater a b = max a b := by
  unfold greater
  split
  · next h => exact (max_eq_right h.le).symm
  · next h => exact (max_eq_left (not_lt.mp h)).symm

variable {α : Type} [AddCommGroup α] [LinearOrder α]
  {delay period clock due : α} {r : Run α} {runs : List (Run α)}

/-- When each run starts, the first of them being due at `due`. -/
def startOf (period due : α) (runs : List (Run α)) (k : Nat) : α :=
  due + ((runs.take k).map fun r => max period r.takes).sum

/-- How long the timer waits for each run, `first` being the wait for the first of them. -/
def waitOf (period first : α) (runs : List (Run α)) : Nat → α
  | 0 => first
  | k + 1 => (runs[k]?.map fun r => max 0 (period - r.takes)).getD 0

theorem startOf_zero (period due : α) (runs : List (Run α)) : startOf period due runs 0 = due := by
  rw [startOf, List.take_zero, List.map_nil, List.sum_nil, add_zero]

theorem startOf_cons (period due : α) (r : Run α) (rest : List (Run α)) (k : Nat) :
    startOf period due (r :: rest) (k + 1) = startOf period (due + max period r.takes) rest k := by
  simp only [startOf, List.take_succ_cons, List.map_cons, List.sum_cons, add_assoc]

theorem waitOf_cons (period first : α) (r : Run α) (rest : List (Run α)) (k : Nat) :
    waitOf period first (r :: rest) (k + 1) = waitOf period (max 0 (period - r.takes)) rest k := by
  cases k <;> rfl

theorem startOf_succ {k : Nat} (hr : runs[k]? = some r) :
    startOf period due runs (k + 1) = startOf period due runs k + max period r.takes := by
  simp only [startOf, List.take_add_one, hr, Option.toList_some, List.map_append, List.map_singleton,
    List.sum_append, List.sum_singleton, add_assoc]

theorem startOf_map_calm (period due : α) (runs : List (Run α)) :
    startOf period due (runs.map Run.calm) = startOf period due runs := by
  funext k
  simp only [startOf, ← List.map_take, List.map_map]
  rfl

theorem waitOf_map_calm (period first : α) (runs : List (Run α)) :
    waitOf period first (runs.map Run.calm) = waitOf period first runs := by
  funext k
  cases k with
  | zero => rfl
  | succ k =>
    simp only [waitOf, List.getElem?_map, Option.map_map]
    rfl

/-- When the runs start and how long the timer waits for each, one from the other. -/
structure Timetable (delay period clock : α) (runs : List (Run α)) (start wait : Nat → α) :
    Prop where
  first : start 0 = clock + delay
  firstWait : wait 0 = delay
  next : ∀ k r, runs[k]? = some r → start (k + 1) = start k + max period r.takes
  nextWait : ∀ k r, runs[k]? = some r → wait (k + 1) = max 0 (period - r.takes)

theorem timetable (delay period clock : α) (runs : List (Run α)) :
    Timetable delay period clock runs (startOf period (clock + delay) runs)
      (waitOf period delay runs) where
  first := startOf_zero period _ runs
  firstWait := rfl
  next _ _ hr := startOf_succ hr
  nextWait k r hr := by
    rw [waitOf, hr, Option.map_some, Option.getD_some]

namespace Timetable

variable {start wait : Nat → α} {k : Nat}

/-- As long as no run takes more than a period, the runs start at whole periods. -/
theorem start_eq (h : Timetable delay period clock runs start wait) (hk : k ≤ runs.length)
    (hshort : ∀ r ∈ runs.take k, r.takes ≤ period) : start k = clock + delay + k • period := by
  induction k with
  | zero => rw [h.first, zero_nsmul, add_zero]
  | succ k ih =>
    have hr : runs[k]? = some runs[k] := List.getElem?_eq_getElem hk
    have htake : runs.take (k + 1) = runs.take k ++ [runs[k]] := by
      rw [List.take_add_one, hr, Option.toList_some]
    rw [htake] at hshort
    obtain ⟨hbefore, hlast⟩ := List.forall_mem_append.mp hshort
    rw [h.next k _ hr, max_eq_left (hlast _ (List.mem_singleton_self _)),
      ih (Nat.le_of_lt hk) hbefore, succ_nsmul, add_assoc]

variable [IsOrderedAddMonoid α]

theorem period_le (h : Timetable delay period clock runs start wait) (hr : runs[k]? = some r) :
    start k + period ≤ start (k + 1) := by
  rw [h.next k r hr]
  exact add_le_add_right (le_max_left _ _) _

theorem takes_le (h : Timetable delay period clock runs start wait) (hr : runs[k]? = some r) :
    start k + r.takes ≤ start (k + 1) := by
  rw [h.next k r hr]
  exact add_le_add_right (le_max_right _ _) _

theorem wait_eq_zero_iff (h : Timetable delay period clock runs start wait)
    (hr : runs[k]? = some r) : wait (k + 1) = 0 ↔ period ≤ r.takes := by
  rw [h.nextWait k r hr, max_eq_left_iff, sub_nonpos]

end Timetable

/-! ### Turns -/

variable [IsOrderedAddMonoid α]

theorem steps_cons (h : clock ≤ due) (r : Run α) (rest : List (Run α)) :
    steps period clock due (r :: rest) = turn (due - clock) due r ++
      if r.stop then [.stopped]
      else steps period (due + r.takes) (due + max period r.takes) rest := by
  have hwait : greater 0 (due - clock) = due - clock := by
    rw [greater_eq_max, max_eq_right (sub_nonneg.mpr h)]
  have hnext : greater (due + period) (due + r.takes) = due + max period r.takes := by
    rw [greater_eq_max, max_add_add_left]
  simp only [steps, hwait, add_sub_cancel, hnext]
  rfl

/-- All turns of a timer that is not late. -/
theorem steps_eq_unrolled (h : clock ≤ due) : steps period clock due runs
    = unrolled (startOf period due (performed runs))
        (waitOf period (due - clock) (performed runs)) (performed runs) := by
  induction runs generalizing clock due with
  | nil => rfl
  | cons r rest ih =>
    -- The next run is due when this one ends, or later: so the timer is never late.
    have hdue : due + r.takes ≤ due + max period r.takes :=
      add_le_add_right (le_max_right _ _) due
    have hwait : due + max period r.takes - (due + r.takes) = max 0 (period - r.takes) := by
      rw [add_sub_add_left_eq_sub, ← max_sub_sub_right, sub_self, max_comm]
    rw [performed, steps_cons h, upTo_cons, unrolled_cons, startOf_zero]
    simp only [startOf_cons, waitOf_cons, ih hdue, hwait]
    cases r.stop <;> rfl

/-- The runs up to the one during which the timer is told to stop take place, and no other. The
first starts when the delay is over, and each later one a period after the one before, or as much
later as that one took; the timer waits for what is left of the period. So runs are never closer
than a period, do not overlap, start at once only after one that took a whole period, and start at
whole periods as long as none takes more. Failures are noted, one by one, and change no time. -/
theorem runs_keep_timetable (hdelay : 0 ≤ delay) (runs : List (Run α)) :
    ∃ start wait : Nat → α,
      trace delay period clock runs = unrolled start wait (performed runs) ∧
      Timetable delay period clock (performed runs) start wait ∧
      (∀ k r, (performed runs)[k]? = some r →
        start k + period ≤ start (k + 1) ∧ start k + r.takes ≤ start (k + 1) ∧
          (wait (k + 1) = 0 ↔ period ≤ r.takes)) ∧
      (∀ k ≤ (performed runs).length, (∀ r ∈ (performed runs).take k, r.takes ≤ period) →
        start k = clock + delay + k • period) ∧
      trace delay period clock (runs.map Run.calm)
        = (trace delay period clock runs).filter Step.isTimed ∧
      (trace delay period clock runs).filterMap Step.note?
        = (performed runs).filterMap Run.note? := by
  have htable := timetable delay period clock (performed runs)
  have htrace (runs : List (Run α)) : trace delay period clock runs
      = unrolled (startOf period (clock + delay) (performed runs))
          (waitOf period delay (performed runs)) (performed runs) := by
    have hclock : clock ≤ clock + delay := le_add_of_nonneg_right hdelay
    have hsteps := @steps_eq_unrolled _ _ _ period clock _ runs _ hclock
    rwa [add_sub_cancel_left] at hsteps
  refine ⟨_, _, htrace runs, htable, fun k r hr => ?_, fun k hk => htable.start_eq hk, ?_, ?_⟩
  · exact ⟨htable.period_le hr, htable.takes_le hr, htable.wait_eq_zero_iff hr⟩
  · rw [htrace runs, htrace (runs.map Run.calm), filter_unrolled, performed_map_calm,
      startOf_map_calm, waitOf_map_calm]
  · rw [htrace runs, filterMap_unrolled]

/-- A run that takes two periods and a half is followed by one that starts at once, and the timer is
told to stop during that one. That the first run failed changes nothing. -/
theorem overrun_followed_at_once :
    let fault : Fault := .raised "down"
    let runs : List (Run ℤ) :=
      [⟨4, some fault, false⟩, ⟨25, none, false⟩, ⟨3, none, true⟩, ⟨1, none, false⟩]
    (0 : ℤ) ≤ 1 ∧ trace 1 10 100 runs
      = [.wait 1, .run 101, .failed fault, .wait 6, .run 111, .wait 0, .run 136, .stopped] := by
  intro fault runs
  have hdelay : (0 : ℤ) ≤ 1 := by decide
  obtain ⟨start, wait, htrace, htable, _⟩ := @runs_keep_timetable ℤ _ _ 1 10 100 _ hdelay runs
  have hfirst : start 1 = start 0 + 10 := htable.next 0 _ rfl
  have hsecond : start 2 = start 1 + 25 := htable.next 1 _ rfl
  have hleft : wait 1 = 6 := htable.nextWait 0 _ rfl
  have hnone : wait 2 = 0 := htable.nextWait 1 _ rfl
  have hunrolled : unrolled start wait (performed runs) = [.wait (wait 0), .run (start 0),
      .failed fault, .wait (wait 1), .run (start 1), .wait (wait 2), .run (start 2), .stopped] :=
    rfl
  rw [hsecond, hfirst, htable.first, htable.firstWait, hleft, hnone] at hunrolled
  exact ⟨hdelay, htrace.trans hunrolled⟩

end Newswire.Timer

import Mathlib.Data.List.Induction
import Newswire.Proofs.Presence
import Newswire.Proofs.Timetable

/-!
Timers that succeed one another. Of a clockwork one thing is kept by every command: the current timer
has not been told to stop, and all others have. So at most one timer goes on, and since being told
is never taken back, one that was told does nothing more, whatever is asked afterwards. A timer looks
before each run whether it was told, so there is no run from the first look on at which it was.
-/

namespace Newswire

/-- What is asked of a timer: that it runs, that it does not, or that it goes by the account. -/
inductive Command where
  | start
  | stop
  | account (standing : Standing)

namespace Command

/-- Is a running timer asked for? -/
def asksToRun : Command → Bool
  | .start => true
  | .stop => false
  | .account standing => standing = .registered

def act : Command → Engine Unit
  | .start => Newsroom.start
  | .stop => Newsroom.stop
  | .account standing => Newsroom.standingChanged standing

end Command

/-! ### Clockworks -/

namespace Clockwork

variable {c : Clockwork} {i : Nat}

def obey (c : Clockwork) (command : Command) : Clockwork :=
  if command.asksToRun then c.start else c.stop

/-- Was the timer told to stop? -/
def told (c : Clockwork) (i : Nat) : Bool :=
  c.stopped[i]? == some true

/-! ### Being told to stop -/

theorem lt_length_of_told (h : c.told i = true) : i < c.stopped.length := by
  grind [told]

theorem told_start (h : c.told i = true) : c.start.told i = true := by
  cases hc : c.current with
  | some j => rwa [start_of_some hc]
  | none => rwa [start_of_none hc, told, List.getElem?_append_left (lt_length_of_told h)]

theorem told_stop (h : c.told i = true) : c.stop.told i = true := by
  cases hc : c.current with
  | none => rwa [stop_of_none hc]
  | some j =>
    rw [stop_of_some hc, told, List.getElem?_set]
    grind [told]

theorem told_stop_current (hc : c.current = some i) (hi : i < c.stopped.length) :
    c.stop.told i = true := by
  rw [stop_of_some hc, told, List.getElem?_set_self hi]
  rfl

theorem told_obey (h : c.told i = true) (command : Command) : (c.obey command).told i = true := by
  unfold obey
  split
  · exact told_start h
  · exact told_stop h

/-! ### Timers by themselves -/

/-- The current timer, if there is one, was not told to stop, and all others were. -/
structure Sole (c : Clockwork) : Prop where
  current_goes : ∀ i, c.current = some i → c.stopped[i]? = some false
  others_told : ∀ i < c.stopped.length, c.current ≠ some i → c.told i = true

theorem Sole.start (h : c.Sole) : c.start.Sole := by
  cases hc : c.current with
  | some j => rwa [start_of_some hc]
  | none =>
    refine ⟨fun i hi => ?_, fun i hi hne => told_start (h.others_told i ?_ ?_)⟩
    · rw [start_of_none hc] at hi ⊢
      rw [← Option.some.inj hi]
      exact List.getElem?_concat_length
    · grind [start_of_none hc]
    · rw [hc]
      exact nofun

theorem Sole.stop (h : c.Sole) : c.stop.Sole := by
  cases hc : c.current with
  | none => rwa [stop_of_none hc]
  | some j =>
    refine ⟨fun i hi => ?_, fun i hi _ => ?_⟩
    · rw [stop_of_some hc] at hi
      exact nomatch hi
    · have hi : i < c.stopped.length := by grind [stop_of_some hc]
      by_cases hij : c.current = some i
      · exact told_stop_current hij hi
      · exact told_stop (h.others_told i hi hij)

theorem Sole.obey (h : c.Sole) (command : Command) : (c.obey command).Sole := by
  unfold Clockwork.obey
  split
  · exact h.start
  · exact h.stop

theorem isRunning_start (c : Clockwork) : c.start.isRunning = true := by
  cases hc : c.current with
  | some j => rw [start_of_some hc, isRunning, hc, Option.isSome_some]
  | none => rw [start_of_none hc, isRunning, Option.isSome_some]

theorem isRunning_stop (c : Clockwork) : c.stop.isRunning = false := by
  cases hc : c.current with
  | some j => rw [stop_of_some hc, isRunning, Option.isSome_none]
  | none => rw [stop_of_none hc, isRunning, hc, Option.isSome_none]

theorem isRunning_obey (c : Clockwork) (command : Command) :
    (c.obey command).isRunning = command.asksToRun := by
  unfold obey
  cases command.asksToRun with
  | true => exact isRunning_start c
  | false => exact isRunning_stop c

theorem length_start (c : Clockwork) :
    c.start.stopped.length = c.stopped.length + (!c.isRunning).toNat := by
  unfold isRunning
  cases hc : c.current with
  | some j => rw [start_of_some hc]; rfl
  | none => rw [start_of_none hc, List.length_append]; rfl

theorem length_stop (c : Clockwork) : c.stop.stopped.length = c.stopped.length := by
  cases hc : c.current with
  | some j => rw [stop_of_some hc, List.length_set]
  | none => rw [stop_of_none hc]

/-- A timer is made when one is asked for and none is running, and only then. -/
theorem length_obey (c : Clockwork) (command : Command) : (c.obey command).stopped.length
    = c.stopped.length + (command.asksToRun && !c.isRunning).toNat := by
  unfold obey
  cases command.asksToRun with
  | true => exact length_start c
  | false => exact length_stop c

/-! ### Courses -/

def course (c : Clockwork) (commands : List Command) (n : Nat) : Clockwork :=
  (commands.take n).foldl obey c

theorem course_succ {commands : List Command} {command : Command} {n : Nat}
    (hn : commands[n]? = some command) :
    c.course commands (n + 1) = (c.course commands n).obey command := by
  rw [course, List.take_add_one, hn, List.foldl_append]
  rfl

theorem Sole.course (h : c.Sole) (commands : List Command) (n : Nat) :
    (c.course commands n).Sole := by
  unfold Clockwork.course
  induction commands.take n generalizing c with
  | nil => exact h
  | cons command rest ih => exact ih (h.obey command)

theorem told_foldl (h : c.told i = true) (commands : List Command) :
    (commands.foldl obey c).told i = true := by
  induction commands generalizing c with
  | nil => exact h
  | cons command rest ih => exact ih (told_obey h command)

theorem told_course {commands : List Command} {n m : Nat}
    (h : (c.course commands n).told i = true) (hnm : n ≤ m) :
    (c.course commands m).told i = true := by
  obtain ⟨d, rfl⟩ := Nat.exists_eq_add_of_le hnm
  rw [course, List.take_add, List.foldl_append]
  exact told_foldl h _

theorem isRunning_course (c : Clockwork) (commands : List Command) (n : Nat) :
    (c.course commands n).isRunning
      = ((commands.take n).getLast?.map Command.asksToRun).getD c.isRunning := by
  unfold course
  induction commands.take n using List.reverseRecOn with
  | nil => rfl
  | append_singleton before command _ =>
    rw [List.foldl_append, List.getLast?_concat]
    exact isRunning_obey _ command

/-- How the timers of a clockwork succeed one another in a course of commands. At the beginning one
is running if the account is registered. -/
structure Succession (registered : Bool) (commands : List Command) (course : Nat → Clockwork) :
    Prop where
  others_told : ∀ n, ∀ i < (course n).stopped.length, (course n).current ≠ some i →
    ∀ m ≥ n, (course m).told i = true
  running_iff : ∀ n, (course n).isRunning = true ↔
    ∃ i, (course n).current = some i ∧ (course n).stopped[i]? = some false
  made_first : (course 0).stopped.length = registered.toNat
  made : ∀ n command, commands[n]? = some command → (course (n + 1)).stopped.length
    = (course n).stopped.length + (command.asksToRun && !(course n).isRunning).toNat
  running_eq : ∀ n, (course n).isRunning
    = ((commands.take n).getLast?.map Command.asksToRun).getD registered

theorem Sole.running_iff (h : c.Sole) : c.isRunning = true ↔
    ∃ i, c.current = some i ∧ c.stopped[i]? = some false := by
  rw [isRunning, Option.isSome_iff_exists]
  exact exists_congr fun i => ⟨fun hi => ⟨hi, h.current_goes i hi⟩, And.left⟩

end Clockwork

/-! ### Newsrooms -/

namespace Newsroom

def withClockwork (s : Newsroom) (c : Clockwork) : Newsroom :=
  { s with clockwork := c }

theorem exec_start (s : Newsroom) :
    ∃ notes, exec start s = (.ok (), (s.withClockwork s.clockwork.start).noting notes) := by
  simp only [start, exec_bind, exec_get]
  cases hc : s.clockwork.current with
  | some i =>
    rw [Clockwork.start_of_some hc, Clockwork.isRunning, hc]
    exact ⟨[], by rw [noting_nil]; rfl⟩
  | none =>
    rw [Clockwork.isRunning, hc]
    exact ⟨[_], rfl⟩

theorem exec_stop (s : Newsroom) :
    ∃ notes, exec stop s = (.ok (), (s.withClockwork s.clockwork.stop).noting notes) := by
  simp only [stop, exec_bind, exec_get]
  cases hc : s.clockwork.current with
  | some i =>
    rw [Clockwork.isRunning, hc]
    exact ⟨[_], rfl⟩
  | none =>
    rw [Clockwork.stop_of_none hc, Clockwork.isRunning, hc]
    exact ⟨[], by rw [noting_nil]; rfl⟩

theorem exec_act (command : Command) (s : Newsroom) : ∃ notes,
    exec command.act s = (.ok (), (s.withClockwork (s.clockwork.obey command)).noting notes) := by
  cases command with
  | start => exact exec_start s
  | stop => exact exec_stop s
  | account standing =>
    cases standing with
    | registered => exact exec_start s
    | unregistered => exact exec_stop s
    | failed => exact exec_stop s

theorem exec_commands (commands : List Command) (s : Newsroom) : ∃ notes,
    exec (commands.forM Command.act) s
      = (.ok (), (s.withClockwork (commands.foldl Clockwork.obey s.clockwork)).noting notes) := by
  induction commands generalizing s with
  | nil => exact ⟨[], by rw [noting_nil]; rfl⟩
  | cons command rest ih =>
    obtain ⟨notes, hfirst⟩ := exec_act command s
    obtain ⟨more, hrest⟩ := ih ((s.withClockwork (s.clockwork.obey command)).noting notes)
    refine ⟨notes ++ more, ?_⟩
    rw [List.forM_eq_forM] at hrest ⊢
    rw [List.forM_cons, exec_bind, hfirst, ← noting_noting]
    exact hrest

theorem exec_commence (registered : Bool) (s : Newsroom) : ∃ notes,
    exec (commence registered) s = (.ok (), (s.withClockwork
      (if registered then s.clockwork.start else s.clockwork)).noting notes) := by
  cases registered with
  | true => exact exec_start s
  | false => exact ⟨[], by rw [noting_nil]; rfl⟩

end Newsroom

/-! ### Looks -/

namespace Timer

variable {α : Type}

def Step.isRun : Step α → Bool
  | .run _ => true
  | _ => false

/-- The runs of a timer that looks before each of them whether it was told to stop, and sees
`told k` at look number `k`. -/
def heeding (told : Nat → Bool) (runs : List (Run α)) : List (Run α) :=
  if told 0 then [] else runs.mapIdx fun k r => { r with stop := told (k + 1) }

theorem lt_length_performed_heeding_iff {told : Nat → Bool} {runs : List (Run α)} {k : Nat} :
    k < (performed (heeding told runs)).length ↔
      k < runs.length ∧ ∀ j ≤ k, told j = false := by
  unfold heeding
  cases hfirst : told 0 with
  | true =>
    refine iff_of_false (Nat.not_lt_zero k) fun h => ?_
    exact Bool.false_ne_true ((h.2 0 (Nat.zero_le k)).symm.trans hfirst)
  | false =>
    rw [if_neg Bool.false_ne_true, performed, lt_length_upTo_iff, List.length_mapIdx]
    refine and_congr_right fun hk => ⟨fun h j hj => ?_, fun h j hj r hr => ?_⟩
    · cases j with
      | zero => exact hfirst
      | succ j =>
        have hr : runs[j]? = some runs[j] := List.getElem?_eq_getElem (Nat.lt_trans hj hk)
        exact h j hj _ (by rw [List.getElem?_mapIdx, hr]; rfl)
    · rw [Option.mem_def, List.getElem?_mapIdx] at hr
      obtain ⟨_, _, rfl⟩ := Option.map_eq_some_iff.mp hr
      exact h (j + 1) hj

variable [Add α] [Sub α] [Zero α] [LT α] [DecidableLT α]

theorem countP_steps (period clock due : α) (runs : List (Run α)) :
    (steps period clock due runs).countP Step.isRun = (performed runs).length := by
  induction runs generalizing clock due with
  | nil => rfl
  | cons r rest ih =>
    have hfault : (r.fault.map (.failed : Fault → Step α)).toList.countP Step.isRun = 0 := by
      cases r.fault <;> rfl
    rw [performed, upTo_cons]
    simp only [steps, List.countP_append, List.countP_cons, hfault, List.length_cons]
    cases r.stop with
    | true => rfl
    | false =>
      rw [if_neg Bool.false_ne_true, if_neg Bool.false_ne_true, ih, Nat.add_comm]
      rfl

/-- A run takes place exactly if the timer was not told to stop at the look before it, nor at any
earlier one. -/
theorem lt_countP_trace_iff (delay period clock : α) (told : Nat → Bool) (runs : List (Run α))
    (k : Nat) : k < (trace delay period clock (heeding told runs)).countP Step.isRun ↔
      k < runs.length ∧ ∀ j ≤ k, told j = false := by
  rw [trace, countP_steps, lt_length_performed_heeding_iff]

end Timer

namespace Clockwork

theorem eq_of_make {delay period : Span} {c : Clockwork} (h : make delay period = .ok c) :
    c = ⟨delay, period, [], none⟩ := by
  unfold make at h
  split at h
  · exact nomatch h
  · exact (Except.ok.inj h).symm

theorem sole_of_make {delay period : Span} {c : Clockwork} (h : make delay period = .ok c)
    (registered : Bool) : (if registered then c.start else c).Sole ∧
      (if registered then c.start else c).isRunning = registered ∧
      (if registered then c.start else c).stopped.length = registered.toNat := by
  rw [eq_of_make h]
  have hsole : Sole ⟨delay, period, [], none⟩ := ⟨nofun, nofun⟩
  cases registered with
  | true => exact ⟨hsole.start, rfl, rfl⟩
  | false => exact ⟨hsole, rfl, rfl⟩

/-- Whatever is asked of a clockwork, by itself or through a newsroom, all timers that were ever made,
but at most the current one, were told to stop, and this is never taken back; a timer runs if and
only if there is a current one, which was not told; one is made exactly if a running timer is asked
for while none runs; and one runs if and only if the last command asked for it or, if there was none,
the account was registered at the beginning. A newsroom never fails at this, and nothing else becomes
of it. A timer, `looks k` commands having been given by its look number `k`, runs its task as long as
it was not told itself; once told, it never runs it again. -/
theorem timers_succeed_one_another {α : Type} [Add α] [Sub α] [Zero α] [LT α] [DecidableLT α]
    {delay period : Span} {c : Clockwork} (hmake : make delay period = .ok c) (registered : Bool)
    (commands : List Command) :
    let course := (if registered then c.start else c).course commands
    Succession registered commands course ∧
    (∀ (s : Newsroom) n, ∃ notes, Newsroom.exec
      (do Newsroom.commence registered; (commands.take n).forM Command.act) (s.withClockwork c)
        = (.ok (), (s.withClockwork (course n)).noting notes)) ∧
    ∀ i (looks : Nat → Nat) (first every clock : α) (runs : List (Timer.Run α)),
      let seen := fun k => (course (looks k)).told i
      let ran := (Timer.trace first every clock (Timer.heeding seen runs)).countP Timer.Step.isRun
      (∀ k, k < ran ↔ k < runs.length ∧ ∀ j ≤ k, seen j = false) ∧
      ∀ m k, (course m).told i = true → m ≤ looks k → ran ≤ k := by
  intro course
  obtain ⟨hsole, hrunning, hlength⟩ := sole_of_make hmake registered
  have hcourse (n : Nat) : (course n).Sole := hsole.course commands n
  refine ⟨?_, fun s n => ?_, fun i looks first every clock runs => ?_⟩
  · exact {
      others_told := fun n i hi hne m hm => told_course ((hcourse n).others_told i hi hne) hm
      running_iff := fun n => (hcourse n).running_iff
      made_first := hlength
      made := fun n command hn =>
        (congrArg (·.stopped.length) (course_succ hn)).trans (length_obey _ command)
      running_eq := fun n => by rw [isRunning_course, hrunning] }
  · obtain ⟨notes, hbegin⟩ := Newsroom.exec_commence registered (s.withClockwork c)
    obtain ⟨more, hrest⟩ := Newsroom.exec_commands (commands.take n)
      ((s.withClockwork (if registered then c.start else c)).noting notes)
    refine ⟨notes ++ more, ?_⟩
    rw [Newsroom.exec_bind, hbegin, ← Newsroom.noting_noting]
    exact hrest
  · intro seen ran
    have hran (k : Nat) : k < ran ↔ k < runs.length ∧ ∀ j ≤ k, seen j = false :=
      Timer.lt_countP_trace_iff first every clock seen runs k
    refine ⟨hran, fun m k htold hm => Nat.not_lt.mp fun hk => ?_⟩
    have hseen : seen k = true := told_course htold hm
    rw [((hran k).mp hk).2 k (Nat.le_refl k)] at hseen
    exact Bool.false_ne_true hseen

/-- Of three timers only the last is left. The first was told to stop by the second command, before
its second look, so it ran its task once and never again, though timers were started after that. -/
theorem third_timer_alone :
    let c : Clockwork := ⟨.whole 1, .whole 10, [], none⟩
    let commands : List Command :=
      [.start, .account .unregistered, .start, .stop, .account .registered]
    let course := c.start.course commands
    let looks := fun k => 2 * k
    let runs : List (Timer.Run ℤ) := [⟨3, none, false⟩, ⟨3, none, false⟩, ⟨3, none, false⟩]
    let ran := (Timer.trace 1 10 100
      (Timer.heeding (fun k => (course (looks k)).told 0) runs)).countP Timer.Step.isRun
    make (.whole 1) (.whole 10) = .ok c ∧ (course 5).stopped = [true, true, false] ∧
      (course 5).isRunning = true ∧ (course 2).told 0 = true ∧ 2 ≤ looks 1 ∧ ran = 1 := by
  intro c commands course looks runs ran
  have hmake : make (.whole 1) (.whole 10) = .ok c := rfl
  obtain ⟨hsuccession, _, hlooks⟩ := @timers_succeed_one_another ℤ _ _ _ _ _ _ _ _ hmake true commands
  obtain ⟨hran, hnever⟩ := hlooks 0 looks 1 10 100 runs
  have htold : (course 2).told 0 = true := rfl
  have hfirst : 0 < ran := (hran 0).mpr ⟨by decide, by decide⟩
  have hlast : ran ≤ 1 := hnever 2 1 htold (by decide)
  exact ⟨hmake, rfl, hsuccession.running_eq 5, htold, by decide, Nat.le_antisymm hlast hfirst⟩

end Clockwork

end Newswire

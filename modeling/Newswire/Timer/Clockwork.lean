import Newswire.Fault
import Newswire.Timer.Span

/-!
Starting and stopping timers. Each start makes a timer of its own; one that was stopped never runs
again, and at most one is running.
-/

namespace Newswire

/-- All timers ever made, each with whether it was told to stop, and which one is current. -/
structure Clockwork where
  delay : Span
  period : Span
  stopped : List Bool
  current : Option Nat

namespace Clockwork

def make (delay period : Span) : Except Fault Clockwork :=
  if period.isNone then .error .noPeriod else .ok ⟨delay, period, [], none⟩

def isRunning (c : Clockwork) : Bool :=
  c.current.isSome

/-- Make a timer, unless one is running. -/
def start (c : Clockwork) : Clockwork :=
  match c.current with
  | some _ => c
  | none => { c with stopped := c.stopped ++ [false], current := some c.stopped.length }

def stop (c : Clockwork) : Clockwork :=
  match c.current with
  | some i => { c with stopped := c.stopped.set i true, current := none }
  | none => c

variable {c : Clockwork} {i : Nat}

theorem start_of_some (h : c.current = some i) : c.start = c := by
  rw [start, h]

theorem start_of_none (h : c.current = none) :
    c.start = { c with stopped := c.stopped ++ [false], current := some c.stopped.length } := by
  rw [start, h]

theorem stop_of_some (h : c.current = some i) :
    c.stop = { c with stopped := c.stopped.set i true, current := none } := by
  rw [stop, h]

theorem stop_of_none (h : c.current = none) : c.stop = c := by
  rw [stop, h]

end Clockwork

end Newswire

import Newswire.Journal

/-!
The run of a timer: it waits until the next run is due, runs its task, and is due again one period
later, or at once if the task took longer. Runs that were missed meanwhile are dropped. A task that
fails does not end the timer.
-/

namespace Newswire.Timer

/-- One run of the task: how long it takes, whether it fails, and whether the timer is told to stop
while it runs. -/
structure Run (α : Type) where
  takes : α
  fault : Option Fault
  stop : Bool

/-- What a timer does. -/
inductive Step (α : Type) where
  | wait (timeout : α)
  | run (clock : α)
  | failed (fault : Fault)
  | stopped

variable {α : Type} [Add α] [Sub α] [Zero α] [LT α] [DecidableLT α]

def greater (a b : α) : α :=
  if a < b then b else a

/-- What the timer does from the time `clock` on when it is due at `due`. It stops after the last
run at the latest. -/
def steps (period : α) (clock due : α) : List (Run α) → List (Step α)
  | [] => [.stopped]
  | r :: rest =>
    let timeout := greater 0 (due - clock)
    let start := clock + timeout
    let done := start + r.takes
    .wait timeout :: .run start :: (r.fault.map .failed).toList ++
      if r.stop then [.stopped] else steps period done (greater (due + period) done) rest

def trace (delay period clock : α) (runs : List (Run α)) : List (Step α) :=
  steps period clock (clock + delay) runs

def failureText : String := "Scheduled refresh failed"

def Step.note? {α : Type} : Step α → Option Journal.Note
  | .failed fault => some ⟨.error, .timer, failureText, some fault⟩
  | _ => none

end Newswire.Timer

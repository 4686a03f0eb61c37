import Newswire.Fault

/-!
The journal: notes about what happens, each with its level and the part that wrote it.
-/

namespace Newswire.Journal

inductive Level where
  | debug | info | warning | error
deriving DecidableEq

def Level.rank : Level → Nat
  | .debug => 10
  | .info => 20
  | .warning => 30
  | .error => 40

/-- The names that may be given for the least rank that is logged. -/
def thresholds : List (String × Nat) :=
  [("CRITICAL", 50), ("FATAL", 50), ("ERROR", 40), ("WARN", 30), ("WARNING", 30), ("INFO", 20),
   ("DEBUG", 10), ("NOTSET", 0)]

inductive Part where
  | refresh | roster | timer
deriving DecidableEq

/-- A note, with the fault that it reports if there is one. -/
structure Note where
  level : Level
  part : Part
  text : String
  cause : Option Fault

def Note.passes (threshold : Nat) (note : Note) : Bool :=
  threshold ≤ note.level.rank

end Newswire.Journal

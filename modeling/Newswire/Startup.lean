import Newswire.Console
import Newswire.Feed.Reading
import Newswire.Newsroom.Refresh
import Newswire.Preferences

/-!
Startup: the preferences are read and the store is opened, the addresses that the user names are
subscribed to, all feeds are looked at once, and the timer runs until the user interrupts.
-/

namespace Newswire.Startup

open Newsroom

inductive Failure where
  | preferences (cause : Preferences.Error)
  | fault (cause : Fault)

def Failure.message : Failure → String
  | .preferences cause => cause.message
  | .fault cause => cause.message

/-- What the program finds when it starts: variables, addresses, the store, documents at addresses,
the input and the time. -/
structure Surroundings where
  named : String → Option String
  addresses : List (Option String)
  store : Store
  document : Option String → Value
  input : String
  now : Moment

/-- What the program leaves behind: what it printed, the notes that were logged, and the store. -/
structure Result where
  failure : Option Failure
  printed : String
  notes : List Journal.Note
  store : Store

def console : Listener := "console"

/-- What the newsroom depends on when the program runs. -/
def outside (e : Surroundings) : Outside where
  fetch := fun address => Reading.fetch (e.document address) address
  ask := some fun n _ => .ok (Console.answer (Console.lines e.input) n)
  react := fun _ _ _ => []
  now := e.now

def printedOf : Entry → String
  | .heard _ _ event => Console.eventText event
  | .asked _ question _ => Console.prompt question
  | _ => ""

def runningText : String := "feedchat running (Ctrl+C to quit).\n"

/-- What is printed at the end. -/
def goodbyeText : String := "\nGoodbye!\n"

def subscribeNew (w : Outside) : List (Option String) → Engine Unit
  | [] => pure ()
  | address :: rest => do
    if !(← get).lists address then discard (subscribe w address .null)
    subscribeNew w rest

def setUp (w : Outside) (addresses : List (Option String)) : Engine Unit := do
  discard (load w)
  subscribeNew w addresses

/-- Listen on the console, and look at every feed once. -/
def firstRound (w : Outside) : Engine Unit := do
  addListener .messages console
  (← get).roster.forM (refresh w)

def loggedNotes (threshold : Nat) (trace : List Entry) : List Journal.Note :=
  trace.filterMap fun
    | .noted note => if note.passes threshold then some note else none
    | _ => none

def run (e : Surroundings) : Result :=
  match (do let p ← Preferences.read e.named; pure (p, ← p.threshold)) with
  | .error cause => ⟨some (.preferences cause), "", [], e.store⟩
  | .ok (preferences, threshold) =>
    let w := outside e
    let clockwork : Clockwork := ⟨.real preferences.delay, .real preferences.period, [], none⟩
    let (result, s) :=
      (setUp w e.addresses).run.run (Newsroom.empty (some e.store.connect) clockwork)
    let finish (failure : Option Failure) (s : Newsroom) (last : String) : Result :=
      { failure := failure
        printed := String.join (s.trace.map printedOf) ++ last
        notes := loggedNotes threshold s.trace
        store := (s.store.getD e.store).close }
    match result with
    | .error cause => finish (some (.fault cause)) s ""
    | .ok () =>
      let (result, s) := (do firstRound w; start; stop : Engine Unit).run.run s
      match result with
      | .error cause => finish (some (.fault cause)) s ""
      | .ok () => finish none s (runningText ++ goodbyeText)

end Newswire.Startup

import Newswire.Startup

/-!
The command line: the addresses of feeds are the arguments. There is no line to the network here,
so every address is answered as one that cannot be reached; what is printed goes to the standard
output, and notes go to the standard error.
-/

namespace Newswire

def unreachableDocument : Value :=
  .record [("bozo", .bool true), ("bozo_exception", .fault "<urlopen error unreachable>"),
    ("entries", .list []), ("feed", .record [])]

/-- The beginning of the epoch, which stands for the time at which contacts are made. -/
def epoch : Moment :=
  ⟨⟨1970, 1, 1, by decide⟩, ⟨0, 0, 0, 0, by decide⟩, none⟩

def variableNames : List String :=
  ["FEEDCHAT_DB_PATH", "FEEDCHAT_REFRESH_PERIOD", "FEEDCHAT_INITIAL_DELAY", "FEEDCHAT_LOG_LEVEL"]

def surroundings (addresses : List String) (environment : List (String × String)) :
    Startup.Surroundings where
  named := (List.lookup · environment)
  addresses := addresses.map some
  store := .empty
  document := fun _ => unreachableDocument
  input := ""
  now := epoch

end Newswire

open Newswire in
def main (addresses : List String) : IO UInt32 := do
  let environment ← variableNames.filterMapM fun name => do
    return (← IO.getEnv name).map (name, ·)
  let result := Startup.run (surroundings addresses environment)
  for note in result.notes do
    IO.eprintln note.text
  IO.print result.printed
  match result.failure with
  | some failure =>
    IO.eprintln failure.message
    return 1
  | none => return 0

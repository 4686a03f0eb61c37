import Newswire.Newsroom.Refresh

/-!
Restarting: the timer is stopped, and a new list without contacts and listeners begins over the same
store. Contacts that someone still holds stay as they are.
-/

namespace Newswire.Newsroom

/-- A newsroom of the same store in which nobody is listed and nobody listens. -/
def emptied (s : Newsroom) (store : Option Store) (clockwork : Clockwork) : Newsroom :=
  { s with
    roster := []
    store := store
    readers := .empty .messages
    watchers := .empty .properties
    clockwork := clockwork }

def beginAnew (clockwork : Clockwork) : Engine Unit := do
  stop
  modify fun s => s.emptied s.store clockwork

def restart (clockwork : Clockwork) : Engine Unit := do
  stop
  modify fun s => s.emptied (s.store.map fun store => store.close.connect) clockwork

end Newswire.Newsroom

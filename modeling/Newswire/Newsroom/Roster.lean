import Newswire.Newsroom.Basic

/-!
The list of contacts: subscriptions, presence, and changes that are stored and told to those who
watch contacts.
-/

namespace Newswire.Newsroom

def appendAll : List Contact → Engine Unit
  | [] => pure ()
  | c :: rest => do
    let h ← register c
    modify fun s => { s with roster := s.roster ++ [h] }
    appendAll rest

/-- Add the stored contacts that are not in the list yet; answers how many are stored. -/
def load (w : Outside) : Engine Nat := do
  match (← get).store with
  | none => pure 0
  | some store =>
    let stored ← lift (store.all w.now)
    let s ← get
    appendAll (stored.filter fun c => !s.lists c.address)
    note .info .roster ("Loaded " ++ toString stored.length ++ " feed contacts")
    pure stored.length

def find? (address : Option String) : Engine (Option Handle) := do
  let s ← get
  pure (s.roster.find? fun h => (s.contact h).address == address)

def subscribe (w : Outside) (address : Option String) (name : Value) : Engine Handle := do
  let s ← get
  if s.lists address then throw (.alreadySubscribed address)
  let c := Contact.fresh address name w.now
  let c ← match s.store with
    | none => pure c
    | some store => do
      let (c, store) ← lift (store.add c)
      modify fun s => { s with store := some store }
      pure c
  let h ← register c
  modify fun s => { s with roster := s.roster ++ [h] }
  note .info .roster ("Subscribed to " ++ addressText address)
  pure h

def unsubscribe (h : Handle) : Engine Unit := do
  let s ← get
  let address := (s.contact h).address
  if h ∉ s.roster then throw (.notSubscribed address)
  modify fun s => { s with roster := s.roster.erase h }
  match s.store with
  | none => pure ()
  | some store =>
    let (_, store) ← lift (store.delete address)
    modify fun s => { s with store := some store }
  note .info .roster ("Unsubscribed from " ++ addressText address)

/-- Store what has changed about a contact, unless it is a passing one. -/
def save (h : Handle) : Engine Unit := do
  let s ← get
  match s.store with
  | none => pure ()
  | some store =>
    if (s.contact h).persistent then
      let store ← lift (store.update (s.contact h))
      modify fun s => { s with store := some store }

def setPresence (h : Handle) (presence : Presence) : Engine Unit := do
  let old := (← contactOf h).presence
  edit h fun c => { c with presence := presence }
  if old ≠ presence then
    let name := (← contactOf h).name
    note .info .roster ("Feed '" ++ name.shown ++ "' is now " ++ presence.word)
  save h

/-- Take a contact offline; answers whether it was online. -/
def goOffline (h : Handle) : Engine Bool := do
  if (← contactOf h).presence = .offline then pure false
  else
    setPresence h .offline
    pure true

/-- Store a contact of which a property has changed, and tell those who watch. -/
def propertyChanged (w : Outside) (h : Handle) (property : String) (old new : Value) :
    Engine Unit := do
  save h
  tell w .properties h (.changed (← contactOf h) property old new)

end Newswire.Newsroom

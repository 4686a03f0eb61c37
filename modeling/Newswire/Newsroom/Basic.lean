import Newswire.Audience
import Newswire.Feed.Basic
import Newswire.Journal
import Newswire.Store
import Newswire.Timer.Clockwork

/-!
The newsroom: the contacts, their list, the store behind it, those who listen, and the timer. What
happens is written down in the order in which it happens. An operation that fails keeps what it did
until then.
-/

namespace Newswire

/-- Which contact is meant. Two contacts may have the same address. -/
abbrev Handle := Nat

abbrev Listener := String

/-- A question to the user, to be answered with yes or no. -/
structure Question where
  title : String
  text : String
deriving DecidableEq

inductive Entry where
  | noted (note : Journal.Note)
  /-- A contact's feed was asked for. -/
  | fetched (about : Handle) (address : Option String)
  | asked (about : Handle) (question : Question) (answer : Except Fault Bool)
  /-- An event about a contact happened, whoever heard of it. -/
  | happened (about : Handle) (event : Event)
  | heard (topic : Topic) (listener : Listener) (event : Event)

/-- What the newsroom depends on: the feeds out there, the user if there is one to ask, what
listeners do when they are called, and the time. The user's answers are counted from nought. -/
structure Outside where
  fetch : Option String → Except Fault Feed
  ask : Option (Nat → Question → Except Fault Bool)
  react : Topic → Listener → Event → List (Reaction Listener)
  now : Moment

/-- The state of the newsroom. The first `size` handles have been given out. The roster is the
list of contacts that are subscribed to. -/
structure Newsroom where
  size : Nat
  contact : Handle → Contact
  roster : List Handle
  store : Option Store
  readers : Audience Listener
  watchers : Audience Listener
  clockwork : Clockwork
  questions : Nat
  trace : List Entry

abbrev Engine (α : Type) := ExceptT Fault (StateM Newsroom) α

namespace Newsroom

def empty (store : Option Store) (clockwork : Clockwork) : Newsroom where
  size := 0
  contact := fun _ => default
  roster := []
  store := store
  readers := .empty .messages
  watchers := .empty .properties
  clockwork := clockwork
  questions := 0
  trace := []

def audience (s : Newsroom) : Topic → Audience Listener
  | .messages => s.readers
  | .properties => s.watchers

def withAudience (s : Newsroom) (topic : Topic) (a : Audience Listener) : Newsroom :=
  match topic with
  | .messages => { s with readers := a }
  | .properties => { s with watchers := a }

def withContact (s : Newsroom) (h : Handle) (c : Contact) : Newsroom :=
  { s with contact := fun i => if i = h then c else s.contact i }

@[simp]
theorem contact_withContact (s : Newsroom) (h : Handle) (c : Contact) :
    (s.withContact h c).contact h = c := by
  simp only [withContact, if_pos]

theorem contact_withContact_of_ne (s : Newsroom) {h i : Handle} (c : Contact) (hi : i ≠ h) :
    (s.withContact h c).contact i = s.contact i := by
  simp only [withContact, if_neg hi]

theorem withContact_withContact (s : Newsroom) (h : Handle) (c d : Contact) :
    (s.withContact h c).withContact h d = s.withContact h d := by
  unfold withContact
  congr 1
  funext i
  dsimp only
  split
  · rfl
  · rfl

@[simp]
theorem audience_withAudience (s : Newsroom) (topic : Topic) (a : Audience Listener) :
    (s.withAudience topic a).audience topic = a := by
  cases topic <;> rfl

def contacts (s : Newsroom) : List Contact :=
  s.roster.map s.contact

def lists (s : Newsroom) (address : Option String) : Bool :=
  s.contacts.any fun c => c.address == address

/-! ### Single steps -/

def record (entry : Entry) : Engine Unit :=
  modify fun s => { s with trace := s.trace ++ [entry] }

def note (level : Journal.Level) (part : Journal.Part) (text : String) : Engine Unit :=
  record (.noted ⟨level, part, text, none⟩)

def noteFault (part : Journal.Part) (text : String) (fault : Fault) : Engine Unit :=
  record (.noted ⟨.error, part, text, some fault⟩)

def contactOf (h : Handle) : Engine Contact :=
  return (← get).contact h

def edit (h : Handle) (change : Contact → Contact) : Engine Unit :=
  modify fun s => s.withContact h (change (s.contact h))

/-- Give out the next handle, for a contact. -/
def register (c : Contact) : Engine Handle := do
  let h := (← get).size
  modify fun s => { s.withContact h c with size := h + 1 }
  pure h

/-- What was computed, or its fault. -/
def lift {α : Type} (x : Except Fault α) : Engine α :=
  match x with
  | .ok a => pure a
  | .error fault => throw fault

/-- Let an event happen: all listeners of the topic hear of it, until one fails. -/
def tell (w : Outside) (topic : Topic) (about : Handle) (event : Event) : Engine Unit := do
  record (.happened about event)
  let round := ((← get).audience topic).tell (w.react topic) event
  modify (·.withAudience topic round.audience)
  round.called.forM fun listener => record (.heard topic listener event)
  match round.fault with
  | some fault => throw fault
  | none => pure ()

def addListener (topic : Topic) (listener : Listener) : Engine Unit :=
  modify fun s => s.withAudience topic ((s.audience topic).add listener)

def removeListener (topic : Topic) (listener : Listener) : Engine Unit :=
  modify fun s => s.withAudience topic ((s.audience topic).remove listener)

end Newsroom

end Newswire

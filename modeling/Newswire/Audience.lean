import Newswire.Message

/-!
Audiences: listeners in the order in which they registered, each once. An event goes to those who
were registered when it happened, whatever they do about registrations meanwhile; the first that
fails ends the round.
-/

namespace Newswire

/-- Registered listeners and what they listen for. -/
structure Audience (L : Type) where
  topic : Topic
  members : List L

/-- What a listener does when it is called. -/
inductive Reaction (L : Type) where
  | add (listener : L)
  | remove (listener : L)
  | fail (fault : Fault)

/-- A round of calls: who was called, who is registered afterwards, and the fault that ended it. -/
structure Round (L : Type) where
  called : List L
  audience : Audience L
  fault : Option Fault

namespace Audience

variable {L : Type} [DecidableEq L]

def empty (topic : Topic) : Audience L := ⟨topic, []⟩

/-- Register a listener; one who is registered keeps the place. -/
def add (a : Audience L) (listener : L) : Audience L :=
  if listener ∈ a.members then a else { a with members := a.members ++ [listener] }

def remove (a : Audience L) (listener : L) : Audience L :=
  { a with members := a.members.erase listener }

def size (a : Audience L) : Nat :=
  a.members.length

def contains (a : Audience L) (listener : L) : Bool :=
  listener ∈ a.members

@[simp]
theorem topic_add (a : Audience L) (l : L) : (a.add l).topic = a.topic := by
  simp only [add]
  split <;> rfl

theorem mem_add {a : Audience L} {l m : L} :
    m ∈ (a.add l).members ↔ m ∈ a.members ∨ m = l := by
  simp only [add]
  split
  · next h => exact ⟨Or.inl, fun h' => h'.elim id fun e => e ▸ h⟩
  · simp only [List.mem_append, List.mem_singleton]

theorem nodup_add {a : Audience L} (h : a.members.Nodup) (l : L) : (a.add l).members.Nodup := by
  simp only [add]
  split
  · exact h
  · next hl =>
    refine List.nodup_append.2 ⟨h, by simp, ?_⟩
    intro x hx y hy
    rw [List.mem_singleton.1 hy]
    exact fun e => hl (e ▸ hx)

theorem nodup_remove {a : Audience L} (h : a.members.Nodup) (l : L) :
    (a.remove l).members.Nodup :=
  h.sublist List.erase_sublist

/-- What is left of the audience after the reactions of one listener, up to the first failure. -/
def perform (a : Audience L) : List (Reaction L) → Audience L × Option Fault
  | [] => (a, none)
  | .add listener :: rest => (a.add listener).perform rest
  | .remove listener :: rest => (a.remove listener).perform rest
  | .fail fault :: _ => (a, some fault)

def callAll (react : L → List (Reaction L)) (a : Audience L) : List L → Round L
  | [] => ⟨[], a, none⟩
  | listener :: rest =>
    match a.perform (react listener) with
    | (a, some fault) => ⟨[listener], a, some fault⟩
    | (a, none) =>
      let round := callAll react a rest
      { round with called := listener :: round.called }

/-- Tell the audience of an event; one that it does not listen for goes to nobody. -/
def tell (react : L → Event → List (Reaction L)) (a : Audience L) (event : Event) : Round L :=
  if a.topic.covers event then callAll (react · event) a a.members else ⟨[], a, none⟩

end Audience

end Newswire

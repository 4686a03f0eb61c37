import Newswire.Audience
import Newswire.Proofs.Stopping

/-!
A round of calls, told without following it. An event goes by the callback of its own type, and an
audience that has none for it calls nobody; `Event.other` is of any further type, one derived from
these included. Otherwise those are called who were registered when the event happened, in their
order, up to the first that fails. Whom they register or unregister meanwhile plays no part in this,
but all of it, up to the failure, is done. A listener is called at most once in a round, so whatever
it looks at before it acts, what it does there is one list of reactions, and any such list is
allowed here.
-/

namespace Newswire

/-- The callbacks of a listener, one for each type of event. -/
inductive Callback where
  | received | delivered | failed | changed
deriving DecidableEq

/-- The callback by which an audience of the topic tells an event. -/
def Topic.callback? : Topic → Event → Option Callback
  | .messages, .received .. => some .received
  | .messages, .delivered .. => some .delivered
  | .messages, .failed .. => some .failed
  | .properties, .changed .. => some .changed
  | _, _ => none

theorem Topic.covers_eq (topic : Topic) (event : Event) :
    topic.covers event = (topic.callback? event).isSome := by
  cases topic <;> cases event <;> rfl

variable {L : Type}

/-- What a listener does about an event, given what each of its callbacks does. -/
def Topic.answer (topic : Topic) (methods : Callback → L → Event → List (Reaction L))
    (listener : L) (event : Event) : List (Reaction L) :=
  match topic.callback? event with
  | some callback => methods callback listener event
  | none => []

/-! ### Reactions -/

def Reaction.fault? : Reaction L → Option Fault
  | .fail fault => some fault
  | _ => none

/-- The fault with which the reactions of a listener end, if one of them is a failure. -/
def raised (reactions : List (Reaction L)) : Option Fault :=
  reactions.findSome? Reaction.fault?

/-- The reactions before the first failure. -/
def carriedOut (reactions : List (Reaction L)) : List (Reaction L) :=
  reactions.takeWhile fun reaction => reaction.fault?.isNone

namespace Audience

variable [DecidableEq L]

def after (a : Audience L) : Reaction L → Audience L
  | .add listener => a.add listener
  | .remove listener => a.remove listener
  | .fail _ => a

theorem perform_eq (a : Audience L) (reactions : List (Reaction L)) :
    a.perform reactions = ((carriedOut reactions).foldl after a, raised reactions) := by
  induction reactions generalizing a with
  | nil => rfl
  | cons reaction rest ih =>
    cases reaction with
    | add listener => exact ih (a.add listener)
    | remove listener => exact ih (a.remove listener)
    | fail fault => rfl

/-! ### Calls -/

theorem called_callAll (acts : L → List (Reaction L)) (a : Audience L) (ls : List L) :
    (callAll acts a ls).called = upTo (fun l => (raised (acts l)).isSome) ls := by
  induction ls generalizing a with
  | nil => rfl
  | cons l rest ih =>
    rw [callAll, perform_eq, upTo_cons]
    cases raised (acts l) with
    | none => exact congrArg (l :: ·) (ih _)
    | some fault => rfl

theorem fault_callAll_eq (acts : L → List (Reaction L)) (a : Audience L) (ls : List L) :
    (callAll acts a ls).fault = ls.findSome? fun l => raised (acts l) := by
  induction ls generalizing a with
  | nil => rfl
  | cons l rest ih =>
    rw [callAll, perform_eq, List.findSome?_cons]
    cases raised (acts l) with
    | none => exact ih _
    | some fault => rfl

theorem audience_callAll (acts : L → List (Reaction L)) (a : Audience L) (ls : List L) :
    (callAll acts a ls).audience
      = ((callAll acts a ls).called.flatMap fun l => carriedOut (acts l)).foldl after a := by
  induction ls generalizing a with
  | nil => rfl
  | cons l rest ih =>
    rw [callAll, perform_eq]
    cases raised (acts l) with
    | none =>
      dsimp only
      rw [ih, List.flatMap_cons, List.foldl_append]
    | some fault =>
      dsimp only
      rw [List.flatMap_singleton]

theorem tell_of_no_callback {a : Audience L} {event : Event}
    (h : a.topic.callback? event = none) (react : L → Event → List (Reaction L)) :
    a.tell react event = ⟨[], a, none⟩ := by
  rw [tell, Topic.covers_eq, h]
  rfl

theorem tell_of_callback {a : Audience L} {event : Event} {callback : Callback}
    (h : a.topic.callback? event = some callback)
    (methods : Callback → L → Event → List (Reaction L)) :
    a.tell (a.topic.answer methods) event
      = callAll (fun l => methods callback l event) a a.members := by
  have hanswer : (a.topic.answer methods · event) = fun l => methods callback l event := by
    funext l
    rw [Topic.answer, h]
  rw [tell, Topic.covers_eq, h, hanswer]
  rfl

theorem isPrefix_called (react : L → Event → List (Reaction L)) (a : Audience L) (event : Event) :
    (a.tell react event).called <+: a.members := by
  unfold tell
  split
  · rw [called_callAll]
    exact isPrefix_upTo a.members
  · exact List.nil_prefix

theorem audience_tell (react : L → Event → List (Reaction L)) (a : Audience L) (event : Event) :
    (a.tell react event).audience
      = ((a.tell react event).called.flatMap fun l => carriedOut (react l event)).foldl after a := by
  unfold tell
  split
  · exact audience_callAll (react · event) a a.members
  · rfl

/-- An event for which the audience has no callback calls nobody and changes nothing. Any other is
told by its callback to the listeners that were registered when it happened, to each once and in
their order: to all of them if none fails, and otherwise up to the first that fails, with whose fault
the round ends. The registrations afterwards are those that the reactions of the called listeners
leave, one after the other. -/
theorem told_to_those_registered (methods : Callback → L → Event → List (Reaction L))
    (a : Audience L) (event : Event) :
    let round := a.tell (a.topic.answer methods) event
    (a.topic.callback? event = none → round = ⟨[], a, none⟩) ∧
    ∀ callback, a.topic.callback? event = some callback →
      let acts := fun l => methods callback l event
      round.called <+: a.members ∧ (a.members.Nodup → round.called.Nodup) ∧
      ((∀ l ∈ a.members, raised (acts l) = none) →
        round.called = a.members ∧ round.fault = none) ∧
      (∀ before l later fault, a.members = before ++ l :: later →
        (∀ m ∈ before, raised (acts m) = none) → raised (acts l) = some fault →
        round.called = before ++ [l] ∧ round.fault = some fault) ∧
      round.audience = (round.called.flatMap fun l => carriedOut (acts l)).foldl after a := by
  intro round
  refine ⟨fun hnone => tell_of_no_callback hnone _, fun callback hcallback => ?_⟩
  intro acts
  have hround : round = callAll acts a a.members := tell_of_callback hcallback methods
  have hcalled : round.called = upTo (fun l => (raised (acts l)).isSome) a.members := by
    rw [hround, called_callAll]
  have hfault : round.fault = a.members.findSome? fun l => raised (acts l) := by
    rw [hround, fault_callAll_eq]
  have hbegin : round.called <+: a.members := hcalled ▸ isPrefix_upTo a.members
  refine ⟨hbegin, fun hnodup => hnodup.sublist hbegin.sublist, ?_, ?_, ?_⟩
  · intro hquiet
    rw [hcalled, hfault, List.findSome?_eq_none_iff]
    exact ⟨upTo_eq_self fun l hl => by rw [hquiet l hl]; rfl, hquiet⟩
  · intro before l later fault hmembers hquiet hl
    have hnone : before.findSome? (fun m => raised (acts m)) = none :=
      List.findSome?_eq_none_iff.mpr hquiet
    rw [hcalled, hfault, hmembers, List.findSome?_append, hnone, List.findSome?_cons, hl]
    refine ⟨upTo_of_first (fun m hm => ?_) ?_, rfl⟩
    · rw [hquiet m hm]
      rfl
    · rw [hl]
      rfl
  · rw [hround, audience_callAll]

/-- A listener that one before it unregisters is called all the same, one that is registered
meanwhile is not, and what a listener does after its failure is not done. -/
theorem called_though_unregistered :
    let fault : Fault := .raised "busy"
    let methods : Callback → String → Event → List (Reaction String) := fun _ listener _ =>
      if listener = "a" then [.remove "a", .remove "b", .add "d"]
      else if listener = "b" then [.add "a", .fail fault, .remove "c"]
      else []
    let a : Audience String := ⟨.messages, ["a", "b", "c"]⟩
    let event : Event := .received (.html "news") default
    let round := a.tell (a.topic.answer methods) event
    a.topic.callback? event = some .received ∧ round.called = ["a", "b"] ∧
      round.fault = some fault ∧ round.audience.members = ["c", "d", "a"] := by
  intro fault methods a event round
  have hcallback : a.topic.callback? event = some .received := rfl
  obtain ⟨_, htold⟩ := told_to_those_registered methods a event
  obtain ⟨_, _, _, hfirst, haudience⟩ := htold .received hcallback
  obtain ⟨hcalled, hfault⟩ := hfirst ["a"] "b" ["c"] fault rfl
    (List.forall_mem_singleton.mpr rfl) rfl
  rw [hcalled] at haudience
  exact ⟨hcallback, hcalled, hfault, congrArg members haudience⟩

end Audience

end Newswire

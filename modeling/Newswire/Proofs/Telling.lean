import Newswire.Proofs.Engine

/-!
Telling an event. It is written down once, whoever hears of it and however the round of calls ends;
so the messages that the user receives from a contact are read off what has happened, and no
listener can add or withhold one. Telling changes nothing but registrations and what is written down.
-/

namespace Newswire

/-- The message that the user receives with an event, if there is one. -/
def Event.received? : Event → Option Message
  | .received message _ => some message
  | _ => none

/-- The message that the user received from a contact when this happened, if there is one. -/
def Entry.received? (h : Handle) : Entry → Option Message
  | .happened about event => if about = h then event.received? else none
  | _ => none

/-- The messages that the user has received from a contact so far. -/
def Newsroom.received (s : Newsroom) (h : Handle) : List Message :=
  s.trace.filterMap (Entry.received? h)

/-- No listener fails. -/
def Outside.Quiet (w : Outside) : Prop :=
  ∀ topic listener event fault, Reaction.fail fault ∉ w.react topic listener event

/-! ### Rounds of calls without a failure -/

namespace Audience

variable {L : Type} [DecidableEq L]

theorem fault_perform {reactions : List (Reaction L)}
    (hq : ∀ fault, Reaction.fail fault ∉ reactions) (a : Audience L) :
    (a.perform reactions).2 = none := by
  induction reactions generalizing a with
  | nil => rfl
  | cons reaction rest ih =>
    have hrest : ∀ fault, Reaction.fail fault ∉ rest :=
      fun fault hm => hq fault (List.mem_cons_of_mem _ hm)
    cases reaction with
    | add l => exact ih hrest _
    | remove l => exact ih hrest _
    | fail fault => exact absurd (List.mem_cons_self ..) (hq fault)

theorem fault_callAll {react : L → List (Reaction L)}
    (hq : ∀ l fault, Reaction.fail fault ∉ react l) (a : Audience L) (ls : List L) :
    (callAll react a ls).fault = none := by
  induction ls generalizing a with
  | nil => rfl
  | cons l rest ih =>
    have hl := fault_perform (hq l) a
    rcases hp : a.perform (react l) with ⟨b, fault⟩
    rw [hp] at hl
    subst hl
    simp only [callAll, hp]
    exact ih b

end Audience

theorem Outside.Quiet.fault_tell {w : Outside} (hw : w.Quiet) (topic : Topic)
    (a : Audience Listener) (event : Event) : (a.tell (w.react topic) event).fault = none := by
  unfold Audience.tell
  split
  · exact Audience.fault_callAll (fun l fault => hw topic l event fault) a a.members
  · rfl

namespace Newsroom

/-! ### The round of an event -/

@[simp]
theorem audience_withTrace (s : Newsroom) (trace : List Entry) (topic : Topic) :
    { s with trace := trace }.audience topic = s.audience topic := by
  cases topic <;> rfl

@[simp]
theorem withAudience_withTrace (s : Newsroom) (trace : List Entry) (topic : Topic)
    (a : Audience Listener) :
    { s with trace := trace }.withAudience topic a
      = { s.withAudience topic a with trace := trace } := by
  cases topic <;> rfl

theorem exec_recordAll (topic : Topic) (event : Event) (ls : List Listener) (s : Newsroom) :
    exec (ls.forM fun listener => record (.heard topic listener event)) s
      = (.ok (), { s with trace := s.trace ++ ls.map (.heard topic · event) }) := by
  induction ls generalizing s with
  | nil => simp only [List.map_nil, List.append_nil]; rfl
  | cons l rest ih =>
    rw [List.forM_eq_forM] at ih ⊢
    rw [List.forM_cons, exec_bind, exec_record]
    simp only [ih, List.append_assoc, List.singleton_append, List.map_cons]

/-- What telling an event comes to, and the newsroom afterwards. -/
theorem exec_tell (w : Outside) (topic : Topic) (about : Handle) (event : Event) (s : Newsroom) :
    exec (tell w topic about event) s =
      let round := (s.audience topic).tell (w.react topic) event
      (match round.fault with
        | some fault => .error fault
        | none => .ok (),
       { s.withAudience topic round.audience with
          trace := s.trace ++ .happened about event :: round.called.map (.heard topic · event) }) := by
  simp only [tell, exec_bind, exec_record, exec_get, exec_modify, exec_recordAll,
    audience_withTrace, withAudience_withTrace, List.append_assoc, List.singleton_append]
  rcases ((s.audience topic).tell (w.react topic) event).fault with _ | fault <;> rfl

theorem exec_tell_fst {w : Outside} (hw : w.Quiet) (topic : Topic) (about : Handle) (event : Event)
    (s : Newsroom) : (exec (tell w topic about event) s).1 = .ok () := by
  rw [exec_tell]
  simp only [hw.fault_tell]

/-! ### What telling leaves behind -/

theorem received_append (s : Newsroom) (entries : List Entry) (h : Handle) :
    { s with trace := s.trace ++ entries }.received h
      = s.received h ++ entries.filterMap (Entry.received? h) :=
  List.filterMap_append

/-- Of all that is written down when an event is told, only the event itself counts for someone who
does not look at who heard of it. -/
theorem filterMap_trace_tell {β : Type} {pick : Entry → Option β}
    (hheard : ∀ topic listener event, pick (.heard topic listener event) = none) (w : Outside)
    (topic : Topic) (about : Handle) (event : Event) (s : Newsroom) :
    (exec (tell w topic about event) s).2.trace.filterMap pick
      = s.trace.filterMap pick ++ (pick (.happened about event)).toList := by
  have hnone (ls : List Listener) :
      (ls.map (Entry.heard topic · event)).filterMap pick = [] := by
    rw [List.filterMap_map, List.filterMap_eq_nil_iff]
    exact fun l _ => hheard topic l event
  rw [exec_tell]
  show (s.trace ++ ([Entry.happened about event] ++ _)).filterMap pick = _
  rw [List.filterMap_append, List.filterMap_append, hnone, List.append_nil, List.filterMap_cons,
    List.filterMap_nil]
  cases pick (.happened about event) <;> rfl

theorem received_tell (w : Outside) (topic : Topic) (about : Handle) (event : Event)
    (s : Newsroom) (h : Handle) :
    (exec (tell w topic about event) s).2.received h
      = s.received h ++ if about = h then event.received?.toList else [] := by
  refine (filterMap_trace_tell (fun _ _ _ => rfl) w topic about event s).trans ?_
  rw [Entry.received?]
  split <;> rfl

variable {γ : Type} {view : Newsroom → γ}

theorem Keeps.tell (htrace : ∀ s entries, view { s with trace := s.trace ++ entries } = view s)
    (haudience : ∀ s topic a, view (s.withAudience topic a) = view s) (w : Outside) (topic : Topic)
    (about : Handle) (event : Event) : Keeps view (tell w topic about event) := by
  intro s
  let round := (s.audience topic).tell (w.react topic) event
  have ht : (s.withAudience topic round.audience).trace = s.trace := by cases topic <;> rfl
  have h := htrace (s.withAudience topic round.audience)
    (.happened about event :: round.called.map (.heard topic · event))
  rw [ht, haudience] at h
  rw [exec_tell]
  exact h

theorem keeps_contact_tell (w : Outside) (topic : Topic) (about : Handle) (event : Event) :
    Keeps Newsroom.contact (tell w topic about event) :=
  .tell (fun _ _ => rfl) (fun _ topic _ => by cases topic <;> rfl) w topic about event

end Newsroom

end Newswire

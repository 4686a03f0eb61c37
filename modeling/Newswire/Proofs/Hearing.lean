import Newswire.Proofs.Looking

/-!
Who hears of a message. Up to telling of its news a look sends no message, and the readers stay who
they are; what it tells then goes to them in one round of calls. So a look that comes to an outcome
has told them of its news and of nothing else, and any other has told them nothing.
-/

namespace Newswire

def Entry.message? : Entry → Option (Handle × Event)
  | .happened about event => if Topic.messages.covers event then some (about, event) else none
  | _ => none

/-- The events of messages that have happened so far, of whatever contact. -/
def Newsroom.messages (s : Newsroom) : List (Handle × Event) :=
  s.trace.filterMap Entry.message?

/-- Who heard of a message when this happened, and of which. -/
def Entry.heard? : Entry → Option (Listener × Event)
  | .heard .messages listener event => some (listener, event)
  | _ => none

namespace Newsroom

variable {w : Outside} {s t : Newsroom} {h : Handle} {feed : Feed} {news : News}
  {onRequest : Bool} {o : Outcome}

def hearings (s : Newsroom) : List (Listener × Event) :=
  s.trace.filterMap Entry.heard?

/-- Who hears of a message that is told now: those whom a round of calls gets to. -/
def hearing (s : Newsroom) (w : Outside) (event : Event) : List (Listener × Event) :=
  (s.readers.tell (w.react .messages) event).called.map (·, event)

/-- The messages so far, who reads them, and who has heard of which. -/
def mail (s : Newsroom) : List (Handle × Event) × Audience Listener × List (Listener × Event) :=
  (s.messages, s.readers, s.hearings)

theorem mail_append {entries : List Entry} (hm : entries.filterMap Entry.message? = [])
    (hh : entries.filterMap Entry.heard? = []) (s : Newsroom) :
    { s with trace := s.trace ++ entries }.mail = s.mail := by
  simp only [mail, messages, hearings, List.filterMap_append, hm, hh, List.append_nil]

theorem keeps_mail_record {entry : Entry} (hm : entry.message? = none)
    (hh : entry.heard? = none) : Keeps mail (record entry) :=
  mail_append (List.filterMap_cons_none hm) (List.filterMap_cons_none hh)

@[simp]
theorem mail_noting (s : Newsroom) (notes : List Journal.Note) : (s.noting notes).mail = s.mail := by
  have hnone {β : Type} {pick : Entry → Option β} (hpick : ∀ note, pick (.noted note) = none) :
      (notes.map Entry.noted).filterMap pick = [] := by
    rw [List.filterMap_map, List.filterMap_eq_nil_iff]
    exact fun note _ => hpick note
  exact mail_append (hnone fun _ => rfl) (hnone fun _ => rfl) s

@[simp]
theorem messages_noting (s : Newsroom) (notes : List Journal.Note) :
    (s.noting notes).messages = s.messages :=
  congrArg (·.1) (mail_noting s notes)

@[simp]
theorem hearings_noting (s : Newsroom) (notes : List Journal.Note) :
    (s.noting notes).hearings = s.hearings :=
  congrArg (·.2.2) (mail_noting s notes)

/-! ### Telling -/

theorem messages_tell (w : Outside) (topic : Topic) (about : Handle) (event : Event)
    (s : Newsroom) : (exec (tell w topic about event) s).2.messages
      = s.messages ++ if Topic.messages.covers event then [(about, event)] else [] := by
  refine (filterMap_trace_tell (fun _ _ _ => rfl) w topic about event s).trans ?_
  rw [Entry.message?]
  split <;> rfl

/-- The newsroom after those who read were told of an event in a round of calls: it is written down
what happened and who heard of it, and they are who the round leaves registered. -/
def telling (s : Newsroom) (w : Outside) (h : Handle) (event : Event) : Newsroom :=
  let round := s.readers.tell (w.react .messages) event
  { s with
    readers := round.audience
    trace := s.trace ++ .happened h event :: round.called.map (.heard .messages · event) }

theorem exec_tell_messages (hw : w.Quiet) (h : Handle) (event : Event) (s : Newsroom) :
    exec (tell w .messages h event) s = (.ok (), s.telling w h event) := by
  have hafter : (exec (tell w .messages h event) s).2 = s.telling w h event := by
    rw [exec_tell]
    rfl
  exact Prod.ext (exec_tell_fst hw .messages h event s) hafter

theorem messages_telling (hw : w.Quiet) {event : Event}
    (he : Topic.messages.covers event = true) (h : Handle) (s : Newsroom) :
    (s.telling w h event).messages = s.messages ++ [(h, event)] := by
  have hmessages := messages_tell w .messages h event s
  rw [exec_tell_messages hw, if_pos he] at hmessages
  exact hmessages

theorem hearings_tell (w : Outside) (topic : Topic) (about : Handle) (event : Event)
    (s : Newsroom) : (exec (tell w topic about event) s).2.hearings
      = s.hearings ++ if topic = .messages then s.hearing w event else [] := by
  rw [exec_tell]
  show (s.trace ++ Entry.happened about event :: _).filterMap Entry.heard? = _
  rw [List.filterMap_append, List.filterMap_cons_none rfl, List.filterMap_map]
  cases topic with
  | messages =>
    rw [if_pos rfl, hearing, ← List.filterMap_eq_map]
    rfl
  | properties =>
    rw [if_neg nofun]
    exact congrArg (s.hearings ++ ·) (List.filterMap_eq_nil_iff.mpr fun _ _ => rfl)

theorem keeps_mail_tell {event : Event} (he : Topic.messages.covers event = false) (w : Outside)
    (about : Handle) : Keeps mail (tell w .properties about event) := by
  intro s
  have hmessages := messages_tell w .properties about event s
  have hhearings := hearings_tell w .properties about event s
  rw [he] at hmessages
  have hreaders : (exec (tell w .properties about event) s).2.readers = s.readers := by
    rw [exec_tell]
    rfl
  rw [mail, hmessages, hhearings, hreaders]
  simp only [Bool.false_eq_true, reduceCtorEq, if_false, List.append_nil, mail]

theorem recoveryBound_mail (h : Handle) : RecoveryBound h fun s t => t.mail = s.mail :=
  .of_view (fun _ => keeps_mail_record rfl rfl) (fun _ _ => keeps_mail_record rfl rfl)
    (fun _ _ => rfl) fun _ _ _ _ => rfl

theorem mail_fetching (s : Newsroom) (h : Handle) : (s.fetching h).mail = s.mail :=
  keeps_mail_record rfl rfl s

/-! ### Taking a feed in -/

/-- Take a feed in as far as that is the same for whoever caused the look; answers the name that the
contact had and the news. -/
def absorb (w : Outside) (h : Handle) (feed : Feed) : Engine (Value × News) := do
  let address := (← contactOf h).address
  feed.warnings.forM fun warning =>
    note .warning .refresh (feedText (addressText address) ++ ": " ++ warning)
  comeBack h
  let before ← contactOf h
  edit h fun c => { c with name := feed.title }
  let news ← lift (feed.news before.marker)
  if news.fresh.isSome then edit h fun c => { c with marker := news.fresh }
  tellChange w h before.name feed news
  pure (before.name, news)

theorem takeIn_eq_absorb (w : Outside) (h : Handle) (feed : Feed) (onRequest : Bool) :
    takeIn w h feed onRequest = (do
      let (old, news) ← absorb w h feed
      tellNews w h feed news onRequest
      pure (.of old feed news onRequest)) := by
  rw [takeIn_eq]
  unfold absorb announce
  simp only [bind_assoc]
  refine bind_congr fun _ => bind_congr fun _ => bind_congr fun _ => ?_
  refine bind_congr fun before => bind_congr fun _ => bind_congr fun news => ?_
  split
  · simp only [bind_assoc, pure_bind]
  · simp only [bind_assoc, pure_bind]

/-- What a feed that was taken in has made of its contact. -/
theorem exec_absorb_ok {old : Value} (he : exec (absorb w h feed) s = (.ok (old, news), t)) :
    old = (s.contact h).name ∧ feed.news (s.contact h).marker = .ok news ∧
      t.contact h = (s.contact h).takingIn feed news.fresh := by
  obtain ⟨notes, hwarn⟩ := exec_warnings feed
    (fun warning => feedText (addressText (s.contact h).address) ++ ": " ++ warning) s
  unfold absorb at he
  simp only [exec_bind, exec_contactOf, hwarn] at he
  by_cases hs : (s.contact h).presence = .offline → s.CanSave (s.contact h)
  · obtain ⟨u, hback, hcontact, _⟩ := exec_comeBack_of_canSave (s := s.noting notes) hs
    have hu : u.contact h = (s.contact h).online := by
      rw [hcontact, contact_withContact, contact_noting]
    have hmarker : (s.contact h).online.marker = (s.contact h).marker := rfl
    simp only [hback, exec_edit, hu, exec_lift, hmarker] at he
    cases hnews : feed.news (s.contact h).marker with
    | error fault =>
      rw [hnews] at he
      cases he
    | ok own =>
      rw [hnews] at he
      have he := (exec_marking u h (s.contact h) feed own.fresh _).symm.trans he
      rw [exec_bind] at he
      rcases hchange : exec (tellChange w h (s.contact h).online.name feed own)
        (u.withContact h ((s.contact h).takingIn feed own.fresh)) with ⟨fault | _, v⟩
      all_goals
        rw [hchange] at he
        cases he
      refine ⟨rfl, rfl, ?_⟩
      rw [(keeps_contact_tellChange w h _ feed _).of_exec hchange, contact_withContact]
  · obtain ⟨hp, hs⟩ := Classical.not_imp.mp hs
    obtain ⟨fault, u, hback, _⟩ := exec_comeBack_of_not_canSave (s := s.noting notes) hp hs
    simp only [hback] at he
    cases he

theorem keeps_mail_tellChange (w : Outside) (h : Handle) (old : Value) (feed : Feed) (news : News) :
    Keeps mail (tellChange w h old feed news) :=
  .tellChange (recoveryBound_mail h).save fun _ => keeps_mail_tell rfl w h

theorem keeps_mail_absorb (w : Outside) (h : Handle) (feed : Feed) :
    Keeps mail (absorb w h feed) := by
  have hback : Keeps mail (comeBack h) :=
    .bind (fun _ => rfl) fun _ => .ite ((recoveryBound_mail h).setPresence _) (.pure _)
  have hwarn (text : String → String) : Keeps mail (feed.warnings.forM fun warning =>
      note .warning .refresh (text warning)) := by
    intro s
    obtain ⟨notes, hwarn⟩ := exec_warnings feed text s
    rw [hwarn, mail_noting]
  have hchange (old : Value) (news : News) := keeps_mail_tellChange w h old feed news
  refine .bind (fun _ => rfl) fun _ => .bind (hwarn _) fun _ => ?_
  refine .bind hback fun _ => .bind (fun _ => rfl) fun before => .bind (fun _ => rfl) fun _ => ?_
  refine .bind (.lift _) fun news => .ite ?_ (.bind (hchange _ news) fun _ => .pure _)
  exact .bind (fun _ => rfl) fun _ => .bind (hchange _ news) fun _ => .pure _

/-! ### Looking -/

theorem mail_tellNews (w : Outside) (h : Handle) (feed : Feed) (news : News) (onRequest : Bool)
    (s : Newsroom) :
    let after := (exec (tellNews w h feed news onRequest) s).2
    after.messages
        = s.messages ++ (sent news onRequest).map (fun m => (h, .received m (s.contact h))) ∧
      after.hearings = s.hearings ++ (sent news onRequest).flatMap fun m =>
        s.hearing w (.received m (s.contact h)) := by
  unfold tellNews sent
  split
  · rw [List.map_singleton, List.flatMap_singleton]
    split
    · simp only [exec_bind, exec_note, exec_contactOf, messages_tell, hearings_tell, messages_noting,
        hearings_noting]
      exact ⟨rfl, rfl⟩
    · simp only [exec_bind, exec_contactOf, messages_tell, hearings_tell]
      exact ⟨rfl, rfl⟩
  · exact ⟨(List.append_nil _).symm, (List.append_nil _).symm⟩

theorem mail_of_fetch_error {fault : Fault} {r : Except Fault (Option Outcome)}
    (hfetch : w.fetch (s.contact h).address = .error fault)
    (he : exec (check w h onRequest) s = (r, t)) : t.mail = s.mail := by
  have hsilent := (check_within (recoveryBound_mail h) hfetch onRequest).1
  rw [he, mail_fetching] at hsilent
  exact hsilent

/-- A look that has found its feed fails to take it in, or it takes the feed in and tells its news,
which ends it one way or the other. -/
theorem check_cases {r : Except Fault (Option Outcome)}
    (hfetch : w.fetch (s.contact h).address = .ok feed)
    (he : exec (check w h onRequest) s = (r, t)) :
    (∃ fault, exec (absorb w h feed) (s.fetching h) = (.error fault, t) ∧ r = .error fault) ∨
      ∃ old news u told, exec (absorb w h feed) (s.fetching h) = (.ok (old, news), u) ∧
        exec (tellNews w h feed news onRequest) u = (told, t) ∧
        r = told.map fun _ => some (.of old feed news onRequest) := by
  rw [exec_check_of_fetch hfetch, takeIn_eq_absorb, exec_bind] at he
  rcases htaken : exec (absorb w h feed) (s.fetching h) with ⟨fault | ⟨old, news⟩, u⟩
  · rw [htaken] at he
    cases he
    exact .inl ⟨fault, rfl, rfl⟩
  · rw [htaken] at he
    dsimp only at he
    rw [exec_bind] at he
    rcases htell : exec (tellNews w h feed news onRequest) u with ⟨fault | _, v⟩
    all_goals
      rw [htell] at he
      cases he
      exact .inr ⟨old, news, u, _, rfl, htell, rfl⟩

/-- What a look has done that came to an outcome. -/
theorem check_ok (he : exec (check w h onRequest) s = (.ok (some o), t)) :
    ∃ feed news, w.fetch (s.contact h).address = .ok feed ∧
      feed.news (s.contact h).marker = .ok news ∧
      o = .of (s.contact h).name feed news onRequest ∧
      t.contact h = (s.contact h).takingIn feed news.fresh ∧
      t.messages = s.messages ++ (sent news onRequest).map (fun m =>
        (h, .received m (t.contact h))) ∧
      t.hearings = s.hearings ++ (sent news onRequest).flatMap fun m =>
        s.hearing w (.received m (t.contact h)) := by
  cases hfetch : w.fetch (s.contact h).address with
  | error fault => exact absurd rfl ((check_of_fetch_error hfetch he).2 o)
  | ok feed =>
    obtain ⟨_, _, hfailed⟩ | ⟨old, news, u, told, htaken, htell, htold⟩ := check_cases hfetch he
    · cases hfailed
    · obtain ⟨rfl, hnews, hcontact⟩ := exec_absorb_ok htaken
      have hsilent := ((keeps_mail_absorb w h feed).of_exec htaken).trans (mail_fetching s h)
      have hkept := (keeps_contact_tellNews w h feed news onRequest).of_exec htell
      have hsent := mail_tellNews w h feed news onRequest u
      have hreaders : u.readers = s.readers := congrArg (·.2.1) hsilent
      have hmessages : u.messages = s.messages := congrArg (·.1) hsilent
      have hhearings : u.hearings = s.hearings := congrArg (·.2.2) hsilent
      rw [htell] at hsent
      simp only [hmessages, hhearings, hearing, hreaders, ← hkept] at hsent
      have houtcome : o = .of (s.contact h).name feed news onRequest := by
        cases told with
        | error fault => cases htold
        | ok _ => exact Option.some.inj (Except.ok.inj htold)
      exact ⟨feed, news, rfl, hnews, houtcome, (congrFun hkept h).trans hcontact, hsent⟩

end Newsroom

end Newswire

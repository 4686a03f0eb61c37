import Newswire.Proofs.Presence

/-!
What a look at a feed can come to. Either the contact could not be saved on coming back online; then
nothing but its presence has changed. Or it bears the title of the feed and the marker of its news,
whatever fails from there on; saving it, those who watch contacts and those who read messages follow
in this order, and when none of them fails the message is sent. A feed that cannot be had leaves all
of the contact but its presence.
-/

namespace Newswire

/-- A contact whose feed was taken in, with the marker of what was new in it if anything was. -/
def Contact.takingIn (c : Contact) (feed : Feed) (fresh : Option Marker) : Contact :=
  { c with name := feed.title, presence := .online, marker := fresh.or c.marker }

namespace Newsroom

def Outcome.of (old : Value) (feed : Feed) (news : News) (onRequest : Bool) : Outcome :=
  ⟨!feed.title.same old, news.fresh.isSome, news.fresh.isSome || onRequest⟩

/-- The messages that a look sends when nothing fails. -/
def sent (news : News) (onRequest : Bool) : List Message :=
  if news.fresh.isSome || onRequest then [.html news.body] else []

/-! ### The last steps -/

/-- Save a contact that was renamed or has news, and tell those who watch contacts. -/
def tellChange (w : Outside) (h : Handle) (old : Value) (feed : Feed) (news : News) :
    Engine Unit := do
  if !feed.title.same old || news.fresh.isSome then
    propertyChanged w h Event.nameProperty old feed.title

def tellNews (w : Outside) (h : Handle) (feed : Feed) (news : News) (onRequest : Bool) :
    Engine Unit := do
  if news.fresh.isSome || onRequest then
    if news.fresh.isSome then note .info .refresh (feedText feed.title.shown ++ ": new items")
    tell w .messages h (.received (.html news.body) (← contactOf h))

/-- The steps after a contact has taken its feed in. -/
def announce (w : Outside) (h : Handle) (old : Value) (feed : Feed) (news : News)
    (onRequest : Bool) : Engine Outcome := do
  tellChange w h old feed news
  tellNews w h feed news onRequest
  pure (.of old feed news onRequest)

theorem takeIn_eq (w : Outside) (h : Handle) (feed : Feed) (onRequest : Bool) :
    takeIn w h feed onRequest = (do
      let address := (← contactOf h).address
      feed.warnings.forM fun warning =>
        note .warning .refresh (feedText (addressText address) ++ ": " ++ warning)
      comeBack h
      let before ← contactOf h
      edit h fun c => { c with name := feed.title }
      let news ← lift (feed.news before.marker)
      if news.fresh.isSome then edit h fun c => { c with marker := news.fresh }
      announce w h before.name feed news onRequest) := by
  unfold takeIn comeBack
  simp only [bind_assoc]
  refine bind_congr fun c => bind_congr fun _ => bind_congr fun d => ?_
  have htail (before : Contact) (news : News) :
      (do
        if !feed.title.same before.name || news.fresh.isSome then
          propertyChanged w h Event.nameProperty before.name feed.title
        if news.fresh.isSome || onRequest then
          if news.fresh.isSome then note .info .refresh (feedText feed.title.shown ++ ": new items")
          tell w .messages h (.received (.html news.body) (← contactOf h))
        pure (.of before.name feed news onRequest) : Engine Outcome)
      = announce w h before.name feed news onRequest := by
    unfold announce tellChange tellNews
    cases feed.title.same before.name <;> cases news.fresh <;> cases onRequest <;>
      simp only [Bool.not_true, Bool.not_false, Option.isSome_none, Option.isSome_some,
        Bool.or_true, Bool.or_false, Bool.false_eq_true, if_true, if_false, bind_assoc, pure_bind]
  simp only [← htail]
  split
  · rfl
  · simp only [pure_bind]
    rfl

/-! ### Telling those who watch, and those who read -/

theorem keeps_received_tell {event : Event} (he : event.received? = none) (w : Outside)
    (topic : Topic) (about : Handle) : Keeps Newsroom.received (tell w topic about event) := by
  intro s
  funext h
  rw [received_tell, he]
  split
  · exact List.append_nil _
  · exact List.append_nil _

theorem Keeps.tellChange {γ : Type} {view : Newsroom → γ} {w : Outside} {h : Handle} {old : Value}
    {feed : Feed} {news : News} (hsave : Keeps view (Newsroom.save h))
    (htell : ∀ c, Keeps view
      (Newsroom.tell w .properties h (.changed c Event.nameProperty old feed.title))) :
    Keeps view (Newsroom.tellChange w h old feed news) :=
  .ite (.bind hsave fun _ => .bind (fun _ => rfl) htell) (.pure _)

theorem keeps_contact_tellChange (w : Outside) (h : Handle) (old : Value) (feed : Feed)
    (news : News) : Keeps Newsroom.contact (tellChange w h old feed news) :=
  .tellChange (.save (fun _ _ => rfl) h) fun _ => keeps_contact_tell w .properties h _

theorem keeps_received_tellChange (w : Outside) (h : Handle) (old : Value) (feed : Feed)
    (news : News) : Keeps Newsroom.received (tellChange w h old feed news) :=
  .tellChange (.save (fun _ _ => rfl) h) fun _ => keeps_received_tell rfl w .properties h

theorem exec_tellChange_fst {w : Outside} (hw : w.Quiet) {s : Newsroom} {h : Handle} {old : Value}
    {feed : Feed} {news : News}
    (hs : (!feed.title.same old || news.fresh.isSome) = true → s.CanSave (s.contact h)) :
    (exec (tellChange w h old feed news) s).1 = .ok () := by
  unfold tellChange propertyChanged
  split
  · next hchanged =>
    obtain ⟨store, hsave, _⟩ := exec_save_of_canSave (hs hchanged)
    simp only [exec_bind, hsave, exec_contactOf]
    exact exec_tell_fst hw _ _ _ _
  · rfl

theorem keeps_contact_tellNews (w : Outside) (h : Handle) (feed : Feed) (news : News)
    (onRequest : Bool) : Keeps Newsroom.contact (tellNews w h feed news onRequest) := by
  unfold tellNews
  refine .ite ?_ (.pure _)
  refine .ite (.bind (fun _ => rfl) fun _ => ?_) ?_
  all_goals exact .bind (fun _ => rfl) fun _ => keeps_contact_tell w .messages h _

theorem received_tellNews (w : Outside) (h : Handle) (feed : Feed) (news : News)
    (onRequest : Bool) (s : Newsroom) :
    (exec (tellNews w h feed news onRequest) s).2.received h
      = s.received h ++ sent news onRequest := by
  unfold tellNews sent
  split
  · split
    · simp only [exec_bind, exec_note, exec_contactOf, received_tell, received_noting]
      rfl
    · simp only [exec_bind, exec_contactOf, received_tell]
      rfl
  · exact (List.append_nil _).symm

theorem exec_tellNews_fst {w : Outside} (hw : w.Quiet) (h : Handle) (feed : Feed) (news : News)
    (onRequest : Bool) (s : Newsroom) : (exec (tellNews w h feed news onRequest) s).1 = .ok () := by
  unfold tellNews
  split
  · split
    · simp only [exec_bind, exec_note, exec_contactOf, exec_tell_fst hw]
    · simp only [exec_bind, exec_contactOf, exec_tell_fst hw]
  · rfl

/-! ### Announcing -/

variable {w : Outside} {h : Handle} {s t : Newsroom} {feed : Feed} {news : News} {onRequest : Bool}

/-- Announcing touches no contact, and either it stops before the message is sent or it sends it. -/
theorem announce_spec {old : Value} {r : Except Fault Outcome}
    (he : exec (announce w h old feed news onRequest) s = (r, t)) :
    t.contact = s.contact ∧
      (t.received h = s.received h ∨ t.received h = s.received h ++ sent news onRequest) ∧
      ∀ o, r = .ok o → o = .of old feed news onRequest ∧
        t.received h = s.received h ++ sent news onRequest := by
  rw [announce, exec_bind] at he
  rcases hchange : exec (tellChange w h old feed news) s with ⟨fault | _, s₁⟩
  · rw [hchange] at he
    cases he
    have hcontact := (keeps_contact_tellChange w h old feed news).of_exec hchange
    have hreceived := (keeps_received_tellChange w h old feed news).of_exec hchange
    exact ⟨hcontact, .inl (by rw [hreceived]), fun _ ho => nomatch ho⟩
  · have hcontact₁ := (keeps_contact_tellChange w h old feed news).of_exec hchange
    have hreceived₁ := (keeps_received_tellChange w h old feed news).of_exec hchange
    have hreceived := received_tellNews w h feed news onRequest s₁
    simp only [hchange, exec_bind] at he
    rcases hnews : exec (tellNews w h feed news onRequest) s₁ with ⟨fault | _, s₂⟩
    all_goals
      have hcontact := (keeps_contact_tellNews w h feed news onRequest).of_exec hnews
      rw [hnews] at he hreceived
      cases he
      rw [hreceived₁] at hreceived
      rw [hcontact₁] at hcontact
    · exact ⟨hcontact, .inr hreceived, fun _ ho => nomatch ho⟩
    · exact ⟨hcontact, .inr hreceived, fun o ho => by cases ho; exact ⟨rfl, hreceived⟩⟩

theorem exec_announce_fst (hw : w.Quiet) {old : Value}
    (hs : (!feed.title.same old || news.fresh.isSome) = true → s.CanSave (s.contact h)) :
    (exec (announce w h old feed news onRequest) s).1 = .ok (.of old feed news onRequest) := by
  have hchange : (exec (tellChange w h old feed news) s).1 = .ok () := exec_tellChange_fst hw hs
  rcases he : exec (tellChange w h old feed news) s with ⟨r, s₁⟩
  rw [he] at hchange
  subst hchange
  have hnews := exec_tellNews_fst hw h feed news onRequest s₁
  rcases he' : exec (tellNews w h feed news onRequest) s₁ with ⟨r, s₂⟩
  rw [he'] at hnews
  subst hnews
  simp only [announce, exec_bind, he, he', exec_pure]

/-! ### Taking a feed in -/

theorem exec_warnings (feed : Feed) (text : String → String) (s : Newsroom) :
    ∃ notes, exec (feed.warnings.forM fun warning => note .warning .refresh (text warning)) s
      = (.ok (), s.noting notes) := by
  induction feed.warnings generalizing s with
  | nil =>
    refine ⟨[], ?_⟩
    rw [noting_nil]
    rfl
  | cons warning rest ih =>
    obtain ⟨notes, hnotes⟩ := ih (s.noting [⟨.warning, .refresh, text warning, none⟩])
    refine ⟨⟨.warning, .refresh, text warning, none⟩ :: notes, ?_⟩
    rw [noting_noting, List.singleton_append, List.forM_eq_forM] at hnotes
    rw [List.forM_eq_forM, List.forM_cons, exec_bind, exec_note]
    exact hnotes

/-- A contact that is online and bears the title of a feed has taken the feed in once it is marked
with what is new. -/
theorem exec_marking {α : Type} (s : Newsroom) (h : Handle) (c : Contact) (feed : Feed)
    (fresh : Option Marker) (rest : Engine α) :
    exec (do
        if fresh.isSome then edit h fun c => { c with marker := fresh }
        rest) (s.withContact h { c.online with name := feed.title })
      = exec rest (s.withContact h (c.takingIn feed fresh)) := by
  cases fresh with
  | none =>
    simp only [Option.isSome_none, Bool.false_eq_true, if_false]
    rfl
  | some marker =>
    simp only [Option.isSome_some, if_true, exec_bind, exec_edit, contact_withContact,
      withContact_withContact]
    rfl

theorem exec_takeIn_of_canSave (hnews : feed.news (s.contact h).marker = .ok news)
    (hs : (s.contact h).presence = .offline → s.CanSave (s.contact h)) (w : Outside)
    (onRequest : Bool) :
    ∃ t, exec (takeIn w h feed onRequest) s
        = exec (announce w h (s.contact h).name feed news onRequest) t ∧
      t.contact h = (s.contact h).takingIn feed news.fresh ∧ t.received = s.received ∧
      ∀ c, s.CanSave c → t.CanSave c := by
  obtain ⟨notes, hwarn⟩ := exec_warnings feed
    (fun warning => feedText (addressText (s.contact h).address) ++ ": " ++ warning) s
  obtain ⟨u, hback, hcontact, hreceived, hcan⟩ := exec_comeBack_of_canSave (s := s.noting notes) hs
  have hu : u.contact h = (s.contact h).online := by
    rw [hcontact, contact_withContact, contact_noting]
  have hmarker : (s.contact h).online.marker = (s.contact h).marker := rfl
  have hrun : exec (takeIn w h feed onRequest) s = exec (do
      if news.fresh.isSome then edit h fun c => { c with marker := news.fresh }
      announce w h (s.contact h).name feed news onRequest)
      (u.withContact h { (s.contact h).online with name := feed.title }) := by
    rw [takeIn_eq]
    simp only [exec_bind, exec_contactOf, hwarn, hback, exec_edit, hu, exec_lift, hmarker, hnews]
    rfl
  have hreceived : u.received = s.received := by
    rw [hreceived]
    exact funext fun i => received_noting s notes i
  exact ⟨u.withContact h ((s.contact h).takingIn feed news.fresh),
    hrun.trans (exec_marking u h _ feed news.fresh _), contact_withContact u h _, hreceived, hcan⟩

theorem exec_takeIn_of_not_canSave (hp : (s.contact h).presence = .offline)
    (hs : ¬ s.CanSave (s.contact h)) (w : Outside) (feed : Feed) (onRequest : Bool) :
    ∃ fault t, exec (takeIn w h feed onRequest) s = (.error fault, t) ∧
      t.contact h = (s.contact h).online ∧ t.received = s.received := by
  obtain ⟨notes, hwarn⟩ := exec_warnings feed
    (fun warning => feedText (addressText (s.contact h).address) ++ ": " ++ warning) s
  obtain ⟨fault, t, hback, hcontact, hreceived⟩ :=
    exec_comeBack_of_not_canSave (s := s.noting notes) hp hs
  refine ⟨fault, t, ?_, ?_, ?_⟩
  · rw [takeIn_eq]
    simp only [exec_bind, exec_contactOf, hwarn, hback]
  · rw [hcontact, contact_withContact, contact_noting]
  · rw [hreceived]
    exact funext fun i => received_noting s notes i

/-! ### Looking at a feed -/

/-- Nothing fails when a contact takes a feed in: no listener does, and the store takes whatever is
written. -/
structure Untroubled (w : Outside) (s : Newsroom) (h : Handle) (feed : Feed) : Prop where
  quiet : w.Quiet
  back : (s.contact h).presence = .offline → s.CanSave (s.contact h)
  change : ∀ news, feed.news (s.contact h).marker = .ok news →
    (!feed.title.same (s.contact h).name || news.fresh.isSome) = true →
    s.CanSave ((s.contact h).takingIn feed news.fresh)

def fetching (s : Newsroom) (h : Handle) : Newsroom :=
  { s with trace := s.trace ++ [.fetched h (s.contact h).address] }

theorem exec_fetched (s : Newsroom) (h : Handle) :
    exec (record (.fetched h (s.contact h).address)) s = (.ok (), s.fetching h) := rfl

theorem received_fetching (s : Newsroom) (h : Handle) : (s.fetching h).received = s.received := by
  funext i
  exact (received_append s [.fetched h (s.contact h).address] i).trans (List.append_nil _)

theorem exec_check_of_fetch (hfetch : w.fetch (s.contact h).address = .ok feed) (onRequest : Bool) :
    exec (check w h onRequest) s
      = ((exec (takeIn w h feed onRequest) (s.fetching h)).1.map some,
         (exec (takeIn w h feed onRequest) (s.fetching h)).2) := by
  simp only [check, exec_bind, exec_contactOf, exec_fetched, hfetch, exec_map]

/-- Unless the contact cannot be saved on coming back online, it has taken the feed in, whatever
failed; the message was sent once at most, and it was when nothing failed. -/
theorem check_of_canSave (hfetch : w.fetch (s.contact h).address = .ok feed)
    (hnews : feed.news (s.contact h).marker = .ok news)
    (hs : (s.contact h).presence = .offline → s.CanSave (s.contact h))
    {r : Except Fault (Option Outcome)} (he : exec (check w h onRequest) s = (r, t)) :
    t.contact h = (s.contact h).takingIn feed news.fresh ∧
      (t.received h = s.received h ∨ t.received h = s.received h ++ sent news onRequest) ∧
      ∀ o, r = .ok o → o = some (.of (s.contact h).name feed news onRequest) ∧
        t.received h = s.received h ++ sent news onRequest := by
  obtain ⟨u, htake, hcontact, hreceived, _⟩ :=
    exec_takeIn_of_canSave (s := s.fetching h) hnews hs w onRequest
  rw [exec_check_of_fetch hfetch] at he
  rcases hrest : exec (announce w h (s.contact h).name feed news onRequest) u with ⟨r', t'⟩
  have htake : exec (takeIn w h feed onRequest) (s.fetching h) = (r', t') := htake.trans hrest
  rw [htake] at he
  cases he
  obtain ⟨hkeep, hsent, hok⟩ := announce_spec hrest
  rw [hreceived, received_fetching] at hsent hok
  refine ⟨by rw [hkeep, hcontact]; rfl, hsent, fun o ho => ?_⟩
  cases r' with
  | error fault => cases ho
  | ok o' =>
    obtain ⟨ho', hsent'⟩ := hok o' rfl
    cases ho
    exact ⟨by rw [ho'], hsent'⟩

theorem check_of_not_canSave (hfetch : w.fetch (s.contact h).address = .ok feed)
    (hp : (s.contact h).presence = .offline) (hs : ¬ s.CanSave (s.contact h)) (onRequest : Bool) :
    ∃ fault t, exec (check w h onRequest) s = (.error fault, t) ∧
      t.contact h = (s.contact h).online ∧ t.received h = s.received h := by
  obtain ⟨fault, t, htake, hcontact, hreceived⟩ :=
    exec_takeIn_of_not_canSave (s := s.fetching h) hp hs w feed onRequest
  refine ⟨fault, t, ?_, hcontact, ?_⟩
  · rw [exec_check_of_fetch hfetch, htake]
    rfl
  · rw [hreceived, received_fetching]

/-- Whatever fails, the message about the news is sent once at most, and it was when the look came to
an outcome. -/
theorem check_of_news (hfetch : w.fetch (s.contact h).address = .ok feed)
    (hnews : feed.news (s.contact h).marker = .ok news) {r : Except Fault (Option Outcome)}
    (he : exec (check w h onRequest) s = (r, t)) :
    (t.received h = s.received h ∨ t.received h = s.received h ++ sent news onRequest) ∧
      ∀ o, r = .ok o → o = some (.of (s.contact h).name feed news onRequest) ∧
        t.received h = s.received h ++ sent news onRequest := by
  by_cases hs : (s.contact h).presence = .offline → s.CanSave (s.contact h)
  · exact (check_of_canSave hfetch hnews hs he).2
  · obtain ⟨hp, hs⟩ := Classical.not_imp.mp hs
    obtain ⟨fault, t', he', _, hreceived⟩ := check_of_not_canSave hfetch hp hs onRequest
    rw [he'] at he
    cases he
    exact ⟨.inl hreceived, fun _ ho => nomatch ho⟩

theorem exec_check_fst (hfetch : w.fetch (s.contact h).address = .ok feed)
    (hnews : feed.news (s.contact h).marker = .ok news) (hu : Untroubled w s h feed)
    (onRequest : Bool) :
    (exec (check w h onRequest) s).1 = .ok (some (.of (s.contact h).name feed news onRequest)) := by
  obtain ⟨u, htake, hcontact, _, hcan⟩ :=
    exec_takeIn_of_canSave (s := s.fetching h) hnews hu.back w onRequest
  rw [exec_check_of_fetch hfetch, htake]
  have hchange := hu.change news hnews
  refine congrArg (Except.map some) (exec_announce_fst hu.quiet fun hc => ?_)
  rw [hcontact]
  exact hcan _ (hchange hc)

theorem check_within {R : Newsroom → Newsroom → Prop} (b : RecoveryBound h R) {fault : Fault}
    (hfetch : w.fetch (s.contact h).address = .error fault) (onRequest : Bool) :
    R (s.fetching h) (exec (check w h onRequest) s).2 ∧
      ∀ o, (exec (check w h onRequest) s).1 ≠ .ok (some o) := by
  simp only [check, exec_bind, exec_contactOf, exec_fetched]
  split
  · next hf => cases hf.symm.trans hfetch
  · next why _ =>
    refine ⟨b.bind (b.noted _) (fun _ => b.bind (b.reportGone w) fun _ => b.pure none) _, ?_⟩
    intro o
    rw [exec_bind, exec_note]
    dsimp only
    rw [exec_bind]
    split
    · exact fun ho => nomatch ho
    · exact fun ho => nomatch ho
  · exact ⟨b.bind (b.noted _) (fun _ => b.pure none) _, fun o ho => nomatch ho⟩
  · exact ⟨b.refl _, fun o ho => nomatch ho⟩

/-- A feed that cannot be had brings no message either, and leaves all of the contact but its
presence. -/
theorem check_of_fetch_error {fault : Fault}
    (hfetch : w.fetch (s.contact h).address = .error fault) {r : Except Fault (Option Outcome)}
    (he : exec (check w h onRequest) s = (r, t)) :
    standing h t = standing h s ∧ ∀ o, r ≠ .ok (some o) := by
  have hstart : standing h (s.fetching h) = standing h s :=
    Prod.ext rfl (congrFun (received_fetching s h) h)
  obtain ⟨hkept, hnone⟩ := check_within (recoveryBound_standing h h) hfetch onRequest
  rw [he] at hkept hnone
  exact ⟨hkept.trans hstart, hnone⟩

/-! ### What a look can do at most -/

structure TakingBound (h : Handle) (R : Newsroom → Newsroom → Prop) : Prop
    extends PresenceBound h R where
  named : ∀ name, Within R (edit h fun c => { c with name := name })
  marked : ∀ marker, Within R (edit h fun c => { c with marker := marker })
  told : ∀ w topic event, Within R (tell w topic h event)

namespace TakingBound

variable {R : Newsroom → Newsroom → Prop} (b : TakingBound h R)
include b

theorem propertyChanged (w : Outside) (property : String) (old new : Value) :
    Within R (Newsroom.propertyChanged w h property old new) :=
  b.bind b.save fun _ => b.bind (b.contactOf h) fun _ => b.told w _ _

theorem announce (w : Outside) (old : Value) (feed : Feed) (news : News) (onRequest : Bool) :
    Within R (Newsroom.announce w h old feed news onRequest) := by
  refine b.bind (.ite (b.propertyChanged w _ _ _) (b.pure _)) fun _ => b.bind ?_ fun _ => b.pure _
  unfold tellNews
  refine .ite (.ite (b.bind (b.noted _) fun _ => ?_) ?_) (b.pure _)
  all_goals exact b.bind (b.contactOf h) fun _ => b.told w _ _

theorem takeIn (w : Outside) (feed : Feed) (onRequest : Bool) :
    Within R (Newsroom.takeIn w h feed onRequest) := by
  have hwarn (text : String → String) : Within R (feed.warnings.forM fun warning =>
      Newsroom.note .warning .refresh (text warning)) := by
    induction feed.warnings with
    | nil => exact b.pure _
    | cons warning rest ih => exact b.bind (b.noted _) fun _ => ih
  rw [takeIn_eq]
  refine b.bind (b.contactOf h) fun _ => b.bind (hwarn _) fun _ => ?_
  refine b.bind (b.bind (b.contactOf h) fun _ => .ite (b.setPresence _) (b.pure _)) fun _ => ?_
  refine b.bind (b.contactOf h) fun before => b.bind (b.named _) fun _ => ?_
  refine b.bind (b.lift _) fun news => .ite (b.bind (b.marked _) fun _ => ?_) ?_
  all_goals exact b.announce w _ feed news onRequest

end TakingBound

structure LookBound (h : Handle) (R : Newsroom → Newsroom → Prop) : Prop
    extends RecoveryBound h R, TakingBound h R

namespace LookBound

variable {R : Newsroom → Newsroom → Prop} (b : LookBound h R)
include b

theorem check (w : Outside) (onRequest : Bool) (s : Newsroom) :
    R (s.fetching h) (exec (Newsroom.check w h onRequest) s).2 := by
  simp only [Newsroom.check, exec_bind, exec_contactOf, exec_fetched]
  split
  · rw [exec_map]
    exact b.takeIn w _ onRequest _
  · exact b.bind (b.noted _) (fun _ => b.bind (b.reportGone w) fun _ => b.pure none) _
  · exact b.bind (b.noted _) (fun _ => b.pure none) _
  · exact b.refl _

theorem refresh (w : Outside) (s : Newsroom) :
    R (s.fetching h) (exec (Newsroom.refresh w h) s).2 := by
  have hcheck := b.check w true s
  unfold Newsroom.refresh Newsroom.background
  rw [exec_tryCatch, exec_discard]
  rcases he : exec (Newsroom.check w h true) s with ⟨fault | _, t⟩
  all_goals rw [he] at hcheck
  · exact b.trans hcheck (b.noted _ t)
  · exact hcheck

theorem send (hfetching : ∀ s, R s (s.fetching h)) (w : Outside) (message : Message) :
    Within R (Newsroom.send w h message) := by
  refine b.bind (b.contactOf h) fun _ => .ite (b.told w _ _) (b.bind (b.told w _ _) fun _ s => ?_)
  exact b.trans (hfetching s) (b.refresh w s)

end LookBound

end Newsroom

end Newswire

import Newswire.Proofs.Asking
import Newswire.Proofs.Naming

/-!
Sending a message. Who sends one to a contact is told at once whether it was delivered, before
anything else is done; if it was, the feed is asked for, once, and a single message with its news
follows when nothing fails on the way: neither telling the items that are new, nor showing them, nor
setting the newest of them against the marker, nor saving the contact. What does fail is noted in
the background and reaches no one.
-/

namespace Newswire

namespace Feed

variable {feed : Feed} {seen : Option Marker}

theorem exists_news_iff : (∃ news, feed.news seen = .ok news) ↔
    (∃ items text, feed.since seen = .ok items ∧ Html.body items = .ok text) ∧
      ∃ newer, feed.hasNews seen = .ok newer := by
  constructor
  · rintro ⟨news, hnews⟩
    obtain ⟨items, hitems, hbody⟩ := exists_items_of_news hnews
    exact ⟨⟨items, news.body, hitems, hbody⟩, news.fresh.isSome, hasNews_eq_of_news hnews⟩
  · rintro ⟨⟨items, text, hitems, hbody⟩, newer, hnewer⟩
    unfold news
    simp only [bind, Except.bind, hitems, hbody]
    obtain ⟨newest, hnewest, hcompared⟩ := bind_eq_ok.mp hnewer
    rw [hnewest]
    cases newest with
    | none => exact ⟨_, rfl⟩
    | some marker =>
      dsimp only at hcompared ⊢
      rw [hcompared]
      exact ⟨_, rfl⟩

end Feed

namespace Newsroom

variable {w : Outside} {s t : Newsroom} {h : Handle} {feed : Feed}

/-! ### What may fail after a feed was found -/

/-- The feed of a contact is found, and nothing fails that is done with it. -/
structure ComesThrough (w : Outside) (s : Newsroom) (h : Handle) (feed : Feed) : Prop where
  found : w.fetch (s.contact h).address = .ok feed
  shown : ∃ items text, feed.since (s.contact h).marker = .ok items ∧ Html.body items = .ok text
  compared : ∃ newer, feed.hasNews (s.contact h).marker = .ok newer
  back : (s.contact h).presence = .offline → s.CanSave (s.contact h)
  change : ∀ news, feed.news (s.contact h).marker = .ok news →
    (!feed.title.same (s.contact h).name || news.fresh.isSome) = true →
    s.CanSave ((s.contact h).takingIn feed news.fresh)

theorem ComesThrough.congr (hc : ComesThrough w s h feed) (hcontact : t.contact h = s.contact h)
    (hfiled : (t.affairs h).filed = (s.affairs h).filed) : ComesThrough w t h feed := by
  have hcan {c : Contact} (ha : c.address = (s.contact h).address) (hs : s.CanSave c) :
      t.CanSave c := by
    have ha' : c.address = (t.contact h).address := ha.trans (congrArg _ hcontact.symm)
    refine (canFile_affairs_iff ha').mp fun store hstore => ?_
    exact (canFile_affairs_iff ha).mpr hs store (hfiled.symm.trans hstore)
  obtain ⟨hfound, hshown, hcompared, hback, hchange⟩ := hc
  rw [← hcontact] at hfound hshown hcompared
  refine ⟨hfound, hshown, hcompared, fun hoff => ?_, fun news hnews hchanged => ?_⟩
  · rw [hcontact] at hoff ⊢
    exact hcan rfl (hback hoff)
  · rw [hcontact] at hnews hchanged ⊢
    exact hcan rfl (hchange news hnews hchanged)

theorem comesThrough_congr (hcontact : t.contact h = s.contact h)
    (hfiled : (t.affairs h).filed = (s.affairs h).filed) :
    ComesThrough w t h feed ↔ ComesThrough w s h feed :=
  ⟨fun hc => hc.congr hcontact.symm hfiled.symm, fun hc => hc.congr hcontact hfiled⟩

theorem comesThrough_of_check {onRequest : Bool} {o : Outcome}
    (he : (exec (check w h onRequest) s).1 = .ok (some o)) : ∃ feed, ComesThrough w s h feed := by
  obtain ⟨feed, news, hfetch, hnews, _⟩ := check_ok (Prod.ext he rfl)
  rw [exec_check_of_fetch hfetch] at he
  have htaken : ((s.affairs h).takeIn feed).1 = .ok () := by
    obtain ⟨_, hfailed⟩ := affairs_takeIn w h feed onRequest (s.fetching h)
    rw [affairs_fetching] at hfailed
    cases hr : ((s.affairs h).takeIn feed).1 with
    | error fault =>
      rw [(hfailed fault hr).1] at he
      cases he
    | ok _ => rfl
  obtain ⟨hback, own, hown, hchange⟩ := Affairs.takeIn_eq_ok_iff.mp htaken
  obtain ⟨hshown, hcompared⟩ := Feed.exists_news_iff.mp ⟨news, hnews⟩
  refine ⟨feed, hfetch, hshown, hcompared, fun hoff => ?_, fun other hother hchanged => ?_⟩
  · exact (canFile_affairs_iff rfl).mp (hback hoff)
  · obtain rfl : own = other := Except.ok.inj (hown.symm.trans hother)
    have haddress : ((s.contact h).takingIn feed own.fresh).address = (s.contact h).address := rfl
    exact (canFile_affairs_iff haddress).mp (hchange hchanged)

theorem ComesThrough.exists_outcome (hc : ComesThrough w s h feed) (hw : w.Quiet)
    (onRequest : Bool) : ∃ o, (exec (check w h onRequest) s).1 = .ok (some o) := by
  obtain ⟨news, hnews⟩ := Feed.exists_news_iff.mpr ⟨hc.shown, hc.compared⟩
  exact ⟨_, exec_check_fst hc.found hnews ⟨hw, hc.back, hc.change⟩ onRequest⟩

/-! ### The work in the background -/

theorem exists_refresh_eq (w : Outside) (h : Handle) (s : Newsroom) :
    ∃ notes : List Journal.Note,
      exec (refresh w h) s = (.ok (), (exec (check w h true) s).2.noting notes) := by
  have hok : (exec (refresh w h) s).1 = .ok () := by
    unfold refresh background
    rw [exec_tryCatch]
    rcases exec (discard (check w h true)) s with ⟨fault | _, t⟩
    · rfl
    · rfl
  obtain ⟨notes, hnoted⟩ := exists_background_eq "feed-refresh" (discard (check w h true)) s
  rw [exec_discard] at hnoted
  exact ⟨notes, Prod.ext hok hnoted⟩

theorem mail_check_of_error {onRequest : Bool} {fault : Fault} (hw : w.Quiet)
    (he : exec (check w h onRequest) s = (.error fault, t)) : t.mail = s.mail := by
  cases hfetch : w.fetch (s.contact h).address with
  | error why => exact mail_of_fetch_error hfetch he
  | ok feed =>
    obtain ⟨_, htaken, _⟩ | ⟨old, news, u, told, _, htell, hfailed⟩ := check_cases hfetch he
    · exact ((keeps_mail_absorb w h feed).of_exec htaken).trans (mail_fetching s h)
    · -- the feed was taken in, so all that is left is to tell of it, which does not fail
      have hok := exec_tellNews_fst hw h feed news onRequest u
      rw [htell] at hok
      cases hok
      cases hfailed

theorem mail_refresh (hw : w.Quiet) (h : Handle) (s : Newsroom) :
    let after := (exec (refresh w h) s).2
    (∀ feed, ComesThrough w s h feed → ∃ items text,
      feed.since (s.contact h).marker = .ok items ∧ Html.body items = .ok text ∧
        let news := Event.received (.html text) (after.contact h)
        after.messages = s.messages ++ [(h, news)] ∧
          after.hearings = s.hearings ++ s.hearing w news) ∧
    ((¬ ∃ feed, ComesThrough w s h feed) → after.mail = s.mail) := by
  obtain ⟨notes, hrefreshed⟩ := exists_refresh_eq w h s
  intro after
  have hafter : after = (exec (check w h true) s).2.noting notes := congrArg Prod.snd hrefreshed
  rcases he : exec (check w h true) s with ⟨r, u⟩
  rw [he] at hafter
  rw [hafter, mail_noting]
  constructor
  · intro feed hc
    obtain ⟨o, ho⟩ := hc.exists_outcome hw true
    rw [he] at ho
    cases ho
    obtain ⟨own, news, hown, hnews, _, _, hmessages, hhearings⟩ := check_ok he
    obtain rfl : own = feed := Except.ok.inj (hown.symm.trans hc.found)
    obtain ⟨items, hitems, hbody⟩ := Feed.exists_items_of_news hnews
    rw [sent, Bool.or_true, if_pos rfl] at hmessages hhearings
    rw [List.flatMap_singleton] at hhearings
    exact ⟨items, news.body, hitems, hbody, (messages_noting u notes).trans hmessages,
      (hearings_noting u notes).trans hhearings⟩
  · -- the look failed, or found no feed: any other outcome needs one that comes through
    intro hnot
    rcases r with fault | _ | o
    · exact mail_check_of_error hw he
    · exact (check_none he).1
    · exact absurd (comesThrough_of_check (congrArg Prod.fst he)) hnot

/-! ### Sending -/

theorem fetches_telling (hw : w.Quiet) (h : Handle) (event : Event) (s : Newsroom) :
    (s.telling w h event).fetches = s.fetches := by
  have hfetches : (exec (tell w .messages h event) s).2.fetches = s.fetches :=
    (filterMap_trace_tell (fun _ _ _ => rfl) w .messages h event s).trans (List.append_nil _)
  rwa [exec_tell_messages hw] at hfetches

/-- The contact is stored and offline, so that no message reaches it. -/
def Unreachable (c : Contact) : Prop :=
  c.persistent = true ∧ c.presence = .offline

theorem exec_send (w : Outside) (h : Handle) (message : Message) (s : Newsroom) :
    (Unreachable (s.contact h) → exec (send w h message) s
      = exec (tell w .messages h (.failed message (s.contact h) Event.offlineReason)) s) ∧
    (¬ Unreachable (s.contact h) → exec (send w h message) s = exec (do
      tell w .messages h (.delivered acknowledgement (s.contact h))
      refresh w h) s) := by
  have hoff : ((s.contact h).persistent && (s.contact h).presence = .offline) = true ↔
      Unreachable (s.contact h) := by
    rw [Bool.and_eq_true, decide_eq_true_eq]
    rfl
  unfold send
  rw [exec_bind, exec_contactOf]
  dsimp only
  constructor
  · intro hu
    rw [if_pos (hoff.mpr hu)]
  · intro hu
    rw [if_neg fun htrue => hu (hoff.mp htrue)]

/-- Every message that is sent is answered once, if no listener fails, and sending it does not fail.
To a contact that is stored and offline it is not delivered: those who read are told so of that very
message, no feed is asked for, and nothing else is touched. Otherwise they are told first that it
was delivered, in plain text; then the feed is asked for once; and one message with the new items is
told to them if it comes through, and none if it does not. -/
theorem send_answers_once (hw : w.Quiet) (h : Handle) (message : Message) (s : Newsroom) :
    let after := (exec (send w h message) s).2
    (exec (send w h message) s).1 = .ok () ∧
    (Unreachable (s.contact h) →
      let failed := Event.failed message (s.contact h) Event.offlineReason
      after = s.telling w h failed ∧ after.messages = s.messages ++ [(h, failed)] ∧
        after.fetches = s.fetches) ∧
    (¬ Unreachable (s.contact h) →
      let delivered := Event.delivered acknowledgement (s.contact h)
      let told := s.telling w h delivered
      acknowledgement.contentType = Message.plainType ∧
      after = (exec (refresh w h) told).2 ∧
      (∃ rest, after.trace = told.trace ++ rest) ∧
      after.fetches = s.fetches ++ [(h, (s.contact h).address)] ∧
      (∀ feed, ComesThrough w s h feed → ∃ items text,
        feed.since (s.contact h).marker = .ok items ∧ Html.body items = .ok text ∧
        let news := Event.received (.html text) (after.contact h)
        after.messages = s.messages ++ [(h, delivered), (h, news)] ∧
          after.hearings = told.hearings ++ told.hearing w news) ∧
      ((¬ ∃ feed, ComesThrough w s h feed) →
        after.messages = s.messages ++ [(h, delivered)] ∧ after.hearings = told.hearings)) := by
  intro after
  obtain ⟨hfailed, hdelivered⟩ := exec_send w h message s
  by_cases hu : Unreachable (s.contact h)
  · have hsent := (hfailed hu).trans (exec_tell_messages hw h _ s)
    refine ⟨congrArg Prod.fst hsent, fun _ => ?_, fun hnot => absurd hu hnot⟩
    have hafter : after = s.telling w h _ := congrArg Prod.snd hsent
    rw [hafter]
    exact ⟨rfl, messages_telling hw rfl h s, fetches_telling hw h _ s⟩
  · let told := s.telling w h (.delivered acknowledgement (s.contact h))
    have hmessages : told.messages = s.messages ++ [(h, .delivered acknowledgement (s.contact h))] :=
      messages_telling hw rfl h s
    -- the rest is a refresh, which starts from what those who read were told
    have hsent : exec (send w h message) s = exec (refresh w h) told := by
      rw [hdelivered hu, exec_bind, exec_tell_messages hw]
    have hafter : after = (exec (refresh w h) told).2 := congrArg Prod.snd hsent
    obtain ⟨notes, hrefreshed⟩ := exists_refresh_eq w h told
    have hthrough (feed : Feed) : ComesThrough w told h feed ↔ ComesThrough w s h feed :=
      comesThrough_congr rfl rfl
    obtain ⟨hreceived, hnothing⟩ := mail_refresh hw h told
    have hspared := sparing_refresh (List.mem_singleton_self h) w told
    obtain ⟨rest, htrace, _⟩ := hspared.trace
    refine ⟨by rw [hsent, hrefreshed], fun hoff => absurd hoff hu, fun _ =>
      ⟨rfl, hafter, ⟨rest, ?_⟩, ?_, fun feed hc => ?_, fun hnot => ?_⟩⟩
    · rw [hafter]
      exact htrace
    · rw [hafter, hspared.fetches, fetches_telling hw]
      rfl
    · obtain ⟨items, text, hitems, hbody, hnews, hheard⟩ := hreceived feed ((hthrough feed).mpr hc)
      refine ⟨items, text, hitems, hbody, ?_⟩
      rw [hafter]
      refine ⟨?_, hheard⟩
      rw [hnews, hmessages, List.append_assoc]
      rfl
    · have hsilent : after.mail = told.mail := by
        rw [hafter]
        refine hnothing ?_
        rintro ⟨feed, hc⟩
        exact hnot ⟨feed, (hthrough feed).mp hc⟩
      exact ⟨(congrArg (·.1) hsilent).trans hmessages, congrArg (·.2.2) hsilent⟩

/-- A contact that is online answers with its news, and one that is offline does not answer. -/
theorem answered_while_online :
    let w := Outside.showing (Feed.bare ["a"])
    let online := Contact.fresh (some "http://a/f") .null w.now
    let offline := { online with presence := .offline }
    let news := Message.html "<b>a</b><br>\n<br>"
    (∃ c, (exec (send w 0 (.plain "Hello")) (bare.withContact 0 online)).2.messages
      = [(0, .delivered acknowledgement online), (0, .received news c)]) ∧
    (exec (send w 0 (.plain "Hello")) (bare.withContact 0 offline)).2.messages
      = [(0, .failed (.plain "Hello") offline Event.offlineReason)] := by
  intro w online offline news
  have hquiet : w.Quiet := Outside.quiet_showing _
  constructor
  · have hc : ComesThrough w (bare.withContact 0 online) 0 (Feed.bare ["a"]) := {
      found := rfl
      shown := ⟨_, _, rfl, rfl⟩
      compared := ⟨_, rfl⟩
      back := fun hoff => nomatch hoff
      change := fun _ _ _ _ hstore => nomatch hstore }
    obtain ⟨_, _, hdelivered⟩ :=
      send_answers_once hquiet 0 (.plain "Hello") (bare.withContact 0 online)
    obtain ⟨_, _, _, _, hthrough, _⟩ := hdelivered fun hu => nomatch hu.2
    obtain ⟨items, text, hitems, hbody, hmessages, _⟩ := hthrough _ hc
    obtain rfl : [Item.bare "a"] = items := Except.ok.inj hitems
    obtain rfl : "<b>a</b><br>\n<br>" = text := Except.ok.inj hbody
    exact ⟨_, hmessages⟩
  · obtain ⟨_, hfailed, _⟩ :=
      send_answers_once hquiet 0 (.plain "Hello") (bare.withContact 0 offline)
    obtain ⟨_, hmessages, _⟩ := hfailed ⟨rfl, rfl⟩
    exact hmessages

end Newsroom

end Newswire

import Newswire.Proofs.Delivery.Runs

/-!
Looks that fail. The marker moves before anyone is told of the news, so a failure from there on
loses them to all later looks: no look is made up for. The one failure that comes before is that of
bringing the contact back online, and after it the news are delivered when they are looked for again.
-/

namespace Newswire.Newsroom

variable {h : Handle} {s t u : Newsroom} {v w : Visit} {feed : Feed} {items : List Item}

/-- What comes of the news of a look that failed. If the contact could not be brought back online,
nothing was sent, the marker stays, and a later look brings the news. Otherwise their message was
sent once at most, the marker is that of the newest item, and no later look brings any. -/
theorem batch_after_failure {fault : Fault} (hs : feed.Sound (s.contact h).marker)
    (hitems : feed.since (s.contact h).marker = .ok items) (hne : items ≠ [])
    (hfetch : v.world.fetch (s.contact h).address = .ok feed)
    (he : look h s v = (.error fault, t)) (hmarker : (u.contact h).marker = (t.contact h).marker)
    (hfetch' : w.world.fetch (u.contact h).address = .ok feed)
    (hu : Untroubled w.world u h feed) :
    ((s.contact h).presence = .offline ∧ ¬ s.CanSave (s.contact h) →
      t.received h = s.received h ∧ (t.contact h).marker = (s.contact h).marker ∧
        Brings h u w items) ∧
    (¬ ((s.contact h).presence = .offline ∧ ¬ s.CanSave (s.contact h)) →
      (t.received h = s.received h ∨
        ∃ body, Html.body items = .ok body ∧ t.received h = s.received h ++ [.html body]) ∧
      feed.newest = .ok (t.contact h).marker ∧ Brings h u w []) := by
  obtain rfl : feed.selection (s.contact h).marker = items :=
    Except.ok.inj (hs.since_eq.symm.trans hitems)
  constructor
  · rintro ⟨hoffline, hstore⟩
    obtain ⟨_, _, he', hcontact, hreceived⟩ :=
      check_of_not_canSave hfetch hoffline hstore v.onRequest
    cases he.symm.trans he'
    have hstays : (t.contact h).marker = (s.contact h).marker := by
      rw [hcontact]
      rfl
    have hsame := hmarker.trans hstays
    have hbrings := (look_of_sound hfetch' (hsame ▸ hs) hu).1
    rw [hsame] at hbrings
    exact ⟨hreceived, hstays, hbrings⟩
  · intro hback
    obtain ⟨news, hnews, htells⟩ := hs.exists_news
    obtain ⟨hcontact, hreceived, _⟩ := check_of_canSave hfetch hnews
      (fun hoffline => Classical.byContradiction fun hstore => hback ⟨hoffline, hstore⟩) he
    cases hfresh : news.fresh with
    | none => exact absurd ((Feed.fresh_eq_none_iff htells.fresh).mp hfresh) hne
    | some marker =>
      obtain ⟨hlast, hnewest⟩ := htells.newest marker hfresh
      have hmoves : (t.contact h).marker = some marker := by
        rw [hcontact, hfresh]
        rfl
      have hmoved := hmarker.trans hmoves
      have hbrings := (look_of_sound hfetch' (hmoved ▸ hs.of_newest hnewest) hu).1
      rw [hmoved, hnewest.selection_eq_nil] at hbrings
      refine ⟨hreceived.imp_right fun hsent => ⟨news.body, htells.body, ?_⟩, ?_, hbrings⟩
      · rw [hsent, sent, hfresh]
        rfl
      · rw [hlast, hmoves]

/-- A contact that was offline when its store was closed is told of all items afterwards. -/
theorem batch_after_closed_store :
    let feed := Feed.bare ["b", "a"]
    let start : Newsroom := { bare with
      store := some ⟨[], 0, false⟩
      contact := fun _ => { (default : Contact) with presence := .offline } }
    let v : Visit := ⟨.showing feed, false⟩
    Brings 0 { (look 0 start v).2 with store := none } v feed.items := by
  intro feed start v
  let later : Newsroom := { (look 0 start v).2 with store := none }
  have hsound : feed.Sound none := Feed.sound_bare _ fun _ htoken => nomatch htoken
  have hclosed : ¬ start.CanSave (start.contact 0) := fun hsave => by
    obtain ⟨_, hupdate⟩ := hsave _ rfl rfl
    cases hupdate
  have hfailed : look 0 start v = (.error .storeClosed, (look 0 start v).2) := rfl
  have hmarker : (later.contact 0).marker = ((look 0 start v).2.contact 0).marker := rfl
  have hlater : Untroubled v.world later 0 feed :=
    .of_no_store (Outside.quiet_showing feed) rfl _ _
  have hbatch := batch_after_failure hsound rfl (List.cons_ne_nil _ _) rfl hfailed hmarker rfl hlater
  exact (hbatch.1 ⟨rfl, hclosed⟩).2.2

/-- It is not so that a look that failed before it sent its message leaves the news to the next one:
when one who watches contacts fails, the marker has moved already. -/
theorem lost_batch :
    ¬ ∀ (feed : Feed) (h : Handle) (s t : Newsroom) (v w : Visit) (items : List Item)
      (fault : Fault), feed.Sound (s.contact h).marker →
      feed.since (s.contact h).marker = .ok items → items ≠ [] →
      v.world.fetch (s.contact h).address = .ok feed → look h s v = (.error fault, t) →
      t.received h = s.received h → w.world.fetch (t.contact h).address = .ok feed →
      Untroubled w.world t h feed →
      ∃ body, Html.body items = .ok body ∧
        (look h t w).2.received h = t.received h ++ [.html body] := by
  intro hkeeps
  let feed := Feed.bare ["b", "a"]
  let start : Newsroom := { bare with watchers := ⟨.properties, ["watcher"]⟩ }
  let failing : Outside := { Outside.showing feed with
    react := fun topic _ _ => if topic = .properties then [.fail (.raised "boom")] else [] }
  have hsound : feed.Sound none := Feed.sound_bare _ fun _ htoken => nomatch htoken
  obtain ⟨body, hbody, hreceived⟩ := hkeeps feed 0 start (look 0 start ⟨failing, false⟩).2
    ⟨failing, false⟩ ⟨.showing feed, true⟩ feed.items (.raised "boom") hsound rfl
    (List.cons_ne_nil _ _) rfl rfl rfl rfl (.of_no_store (Outside.quiet_showing feed) rfl _ _)
  have hsent : [Message.html Html.noNews] = [Message.html body] := hreceived
  have hnone : Html.noNews = body := by
    simpa only [Message.html, List.cons.injEq, Message.mk.injEq, and_true] using hsent
  obtain ⟨_, hbody', hwording⟩ := Html.exists_body hsound.renders
  cases hbody'.symm.trans hbody
  exact absurd (hwording.mp hnone.symm) (List.cons_ne_nil _ _)

end Newswire.Newsroom

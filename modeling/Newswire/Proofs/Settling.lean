import Newswire.Proofs.Asking

/-!
Settling. A look that comes to an outcome leaves nothing that is new in the feed for its contact: the
marker is that of the newest item, or there was nothing newer than the one at hand, which is kept.
From there on any number of looks at the same feed changes nothing, and those that are due make no
event happen.
-/

namespace Newswire

/-- The contact has taken in all of the feed. -/
structure Contact.Settled (c : Contact) (feed : Feed) : Prop where
  since : feed.since c.marker = .ok []
  name : c.name = feed.title
  presence : c.presence = .online

namespace Newsroom

variable {h : Handle} {s t : Newsroom} {w : Outside} {v : Visit} {visits : List Visit} {feed : Feed}
  {news : News} {onRequest : Bool} {o : Outcome}

/-! ### The marker after a look -/

theorem sound_of_tells (hs : feed.Sound (s.contact h).marker)
    (htells : feed.Tells (s.contact h).marker news) :
    feed.Sound (news.fresh.or (s.contact h).marker) ∧
      feed.selection (news.fresh.or (s.contact h).marker) = [] := by
  cases hfresh : news.fresh with
  | none => exact ⟨hs, (Feed.fresh_eq_none_iff htells.fresh).mp hfresh⟩
  | some marker =>
    obtain ⟨_, hnewest⟩ := htells.newest marker hfresh
    exact ⟨hs.of_newest hnewest, hnewest.selection_eq_nil⟩

theorem settled_of_check (hs : feed.Sound (s.contact h).marker)
    (hfetch : w.fetch (s.contact h).address = .ok feed)
    (he : exec (check w h onRequest) s = (.ok (some o), t)) :
    (t.contact h).Settled feed ∧ feed.Sound (t.contact h).marker ∧
      (t.contact h).address = (s.contact h).address := by
  obtain ⟨own, news, hown, hnews, _, hcontact, _⟩ := check_ok he
  obtain rfl : own = feed := Except.ok.inj (hown.symm.trans hfetch)
  obtain ⟨again, hagain, htells⟩ := hs.exists_news
  obtain rfl : again = news := Except.ok.inj (hagain.symm.trans hnews)
  obtain ⟨hsound, hnone⟩ := sound_of_tells hs htells
  have hmarker : (t.contact h).marker = again.fresh.or (s.contact h).marker := by
    rw [hcontact]
    rfl
  rw [← hmarker] at hsound hnone
  refine ⟨⟨?_, ?_, ?_⟩, hsound, ?_⟩
  · rw [hsound.since_eq, hnone]
  · rw [hcontact]
    rfl
  · rw [hcontact]
    rfl
  · rw [hcontact]
    rfl

/-! ### Looks at a settled contact -/

/-- What is left of a newsroom when it is not asked who listens to messages and what was written
down. -/
def holdings (s : Newsroom) : Newsroom :=
  { s with readers := .empty .messages, trace := [] }

theorem look_of_settled (hset : (s.contact h).Settled feed)
    (hs : feed.Sound (s.contact h).marker) {title : String} (htitle : feed.title = .text title)
    (hquiet : v.world.Quiet) (hfetch : v.world.fetch (s.contact h).address = .ok feed) :
    (look h s v).1 = .ok (some ⟨false, false, v.onRequest⟩) ∧
      (look h s v).2.holdings = s.holdings ∧
      (v.onRequest = false → (look h s v).2.events = s.events) := by
  obtain ⟨news, hnews, htells⟩ := hs.exists_news
  have hselection : feed.selection (s.contact h).marker = [] :=
    Except.ok.inj (hs.since_eq.symm.trans hset.since)
  have hfresh : news.fresh = none := (Feed.fresh_eq_none_iff htells.fresh).mpr hselection
  have honline : (s.contact h).online = s.contact h :=
    Contact.online_of_ne_offline fun hoff => nomatch hoff.symm.trans hset.presence
  have hsame : feed.title.same feed.title = true := by
    rw [htitle, Value.same_text, beq_self_eq_true]
  obtain ⟨notes, hdue⟩ := exec_check_of_no_news hfetch honline hset.name hsame hnews hfresh
  have hevents : ((s.fetching h).noting notes).events = s.events :=
    (events_noting _ notes).trans (events_fetching s h)
  obtain ⟨world, onRequest⟩ := v
  cases onRequest with
  | false =>
    have hlook : look h s ⟨world, false⟩ = _ := hdue
    rw [hlook]
    exact ⟨rfl, rfl, fun _ => hevents⟩
  | true =>
    have hadds := addsNotice_of_check hquiet rfl hdue
    refine ⟨hadds.outcome, ?_, fun hf => nomatch hf⟩
    show (exec (check world h true) s).2.holdings = _
    rw [hadds.rest]
    rfl

/-- The look meets the feed at the address, and no listener fails. -/
structure Visit.Meets (v : Visit) (feed : Feed) (address : Option String) : Prop where
  quiet : v.world.Quiet
  fetch : v.world.fetch address = .ok feed

/-- Looks at the feed of a settled contact leave all as it is, however many there are. -/
theorem holdings_after_of_settled (hset : (s.contact h).Settled feed)
    (hs : feed.Sound (s.contact h).marker) {title : String} (htitle : feed.title = .text title)
    (hmeets : ∀ v ∈ visits, v.Meets feed (s.contact h).address) :
    (after h s visits).holdings = s.holdings := by
  refine prefix_induction (P := fun past => (after h s past).holdings = s.holdings) rfl ?_
    visits [] (List.append_nil _).symm
  intro past v rest hsplit hpast
  have hcontact : (after h s past).contact = s.contact :=
    (congrArg Newsroom.contact hpast :)
  have hmeet : v.Meets feed ((after h s past).contact h).address := by
    rw [hcontact]
    exact hmeets v (hsplit ▸ List.mem_append_right past List.mem_cons_self)
  rw [after_append]
  rw [← hcontact] at hset hs
  exact (look_of_settled hset hs htitle hmeet.quiet hmeet.fetch).2.1.trans hpast

/-- When nothing else fails, a look at a feed that is fit to be read comes to an outcome; and
whenever it does it settles the contact, whatever it was called, wherever it was, and whichever
marker it had. After it any number of looks that meet the same feed leaves all contacts, the list and
the store as they are, and the next one comes to an outcome in which nobody is renamed and nothing is
new; if it is due no event happens. -/
theorem look_settles (hs : feed.Sound (s.contact h).marker) {title : String}
    (htitle : feed.title = .text title) (hfetch : w.fetch (s.contact h).address = .ok feed)
    (onRequest : Bool) :
    (Untroubled w s h feed → ∃ o, (exec (check w h onRequest) s).1 = .ok (some o)) ∧
      ∀ o t, exec (check w h onRequest) s = (.ok (some o), t) →
        (t.contact h).Settled feed ∧
          ∀ visits, (∀ v ∈ visits, v.Meets feed (s.contact h).address) →
            (after h t visits).holdings = t.holdings ∧
              ∀ v, v.Meets feed (s.contact h).address →
                (look h (after h t visits) v).1 = .ok (some ⟨false, false, v.onRequest⟩) ∧
                  (v.onRequest = false →
                    (look h (after h t visits) v).2.events = (after h t visits).events) := by
  constructor
  · intro hu
    obtain ⟨news, hnews, _⟩ := hs.exists_news
    exact ⟨_, exec_check_fst hfetch hnews hu onRequest⟩
  · intro o t he
    obtain ⟨hset, hsound, haddress⟩ := settled_of_check hs hfetch he
    refine ⟨hset, fun visits hmeets => ?_⟩
    rw [← haddress] at hmeets ⊢
    have hkept := holdings_after_of_settled hset hsound htitle hmeets
    have hcontact : (after h t visits).contact = t.contact :=
      (congrArg Newsroom.contact hkept :)
    refine ⟨hkept, fun v hmeet => ?_⟩
    rw [← hcontact] at hset hsound hmeet
    obtain ⟨houtcome, _, hevents⟩ := look_of_settled hset hsound htitle hmeet.quiet hmeet.fetch
    exact ⟨houtcome, hevents⟩

/-- A contact that was offline, with a marker of the other kind, is settled by one look. -/
theorem settles_offline_dated :
    let feed := Feed.bare ["b", "a"]
    let s : Newsroom := { bare with
      contact := fun _ => { (default : Contact) with
        presence := .offline
        marker := some (.date (Outside.showing feed).now) } }
    let v : Visit := ⟨.showing feed, false⟩
    let t := (look 0 s v).2
    (t.contact 0).Settled feed ∧ (after 0 t [⟨.showing feed, true⟩, v]).holdings = t.holdings := by
  intro feed s v t
  have hsound : feed.Sound (s.contact 0).marker := Feed.sound_bare _ fun _ htoken => nomatch htoken
  have hmeets (onRequest : Bool) : Visit.Meets ⟨.showing feed, onRequest⟩ feed (s.contact 0).address :=
    ⟨Outside.quiet_showing feed, rfl⟩
  have hu : Untroubled v.world s 0 feed := .of_no_store (Outside.quiet_showing feed) rfl _ _
  obtain ⟨hcomes, hsettles⟩ := look_settles hsound rfl (hmeets false).fetch false
  obtain ⟨o, ho⟩ := hcomes hu
  have he : exec (check v.world 0 false) s = (.ok (some o), t) := Prod.ext ho rfl
  obtain ⟨hset, hafter⟩ := hsettles o t he
  refine ⟨hset, (hafter _ fun u hu => ?_).1⟩
  simp only [List.mem_cons, List.not_mem_nil, or_false] at hu
  rcases hu with rfl | rfl
  · exact hmeets true
  · exact hmeets false

end Newsroom

end Newswire

import Newswire.Proofs.Legibility
import Newswire.Proofs.Restart.Delivery

/-!
Looking at a feed because the user asks. Whoever caused the look, it does the same: when nothing is
new, and only then, one who asked gets a notice on top. That the notice stands where nothing is new
rests on the agreement of two computations on any feed: where the marker of the newest item is not
newer than the one at hand, no item is selected.
-/

namespace Newswire

namespace Marker

theorem exists_text_of_lower {v : Value} {text : String} (h : v.lower = .ok text) :
    ∃ own, v = .text own := by
  unfold Value.lower at h
  cases hown : v.asText "lower" with
  | error misuse =>
    rw [hown] at h
    cases h
  | ok own => exact ⟨own, Value.asText_eq_ok_iff.mp hown⟩

theorem exists_texts_of_tokenMatches {own token : Value} (h : tokenMatches own token = .ok true) :
    ∃ a b, own = .text a ∧ token = .text b ∧ Text.lower a = Text.lower b := by
  unfold tokenMatches at h
  split at h
  · cases h
  · obtain ⟨a, ha, h⟩ := bind_eq_ok.mp h
    obtain ⟨b, hb, h⟩ := bind_eq_ok.mp h
    obtain ⟨own, rfl⟩ := exists_text_of_lower (Reading.mapError_eq_ok ha)
    obtain ⟨token, rfl⟩ := exists_text_of_lower (Reading.mapError_eq_ok hb)
    cases ha
    cases hb
    exact ⟨own, token, rfl, rfl, beq_iff_eq.mp (Except.ok.inj h)⟩

theorem tokenMatches_comm {own token : Value} (h : tokenMatches own token = .ok true) :
    tokenMatches token own = .ok true := by
  obtain ⟨a, b, rfl, rfl, hsame⟩ := exists_texts_of_tokenMatches h
  rw [Feed.tokenMatches_text, hsame, beq_self_eq_true]

end Marker

namespace Feed

variable {feed : Feed} {seen : Option Marker} {news : News}

/-! ### Feeds without news -/

theorem later?_eq_ok {a b : Moment} {later : Bool}
    (h : (a.later? b).mapError Fault.moment = .ok later) : later = decide (b.instant < a.instant) := by
  unfold Moment.later? at h
  split at h
  · exact (Except.ok.inj h).symm
  · cases h

theorem le_latest {best top : Moment} {dates : List Moment} (h : latest best dates = .ok top) :
    ∀ a ∈ best :: dates, a.instant ≤ top.instant := by
  induction dates generalizing best with
  | nil =>
    cases h
    intro a ha
    exact Int.le_of_eq (congrArg Moment.instant (List.mem_singleton.mp ha))
  | cons date rest ih =>
    obtain ⟨later, hlater, h⟩ := bind_eq_ok.mp h
    have hlt := later?_eq_ok hlater
    split at h
    · next hl =>
      have hall := ih h
      have hdate := hall date List.mem_cons_self
      rw [hl, eq_comm, decide_eq_true_eq] at hlt
      refine List.forall_mem_cons.mpr ⟨by omega, hall⟩
    · next hl =>
      have hall := ih h
      have hbest := hall best List.mem_cons_self
      rw [Bool.not_eq_true] at hl
      rw [hl, eq_comm, decide_eq_false_iff_not] at hlt
      have hrest := (List.forall_mem_cons.mp hall).2
      exact List.forall_mem_cons.mpr ⟨hbest, List.forall_mem_cons.mpr ⟨by omega, hrest⟩⟩

theorem laterThan_eq_nil {date : Moment} {dated : List (Item × Moment)} {items : List Item}
    (h : laterThan date dated = .ok items) (hle : ∀ p ∈ dated, p.2.instant ≤ date.instant) :
    items = [] := by
  induction dated generalizing items with
  | nil =>
    cases h
    rfl
  | cons p rest ih =>
    obtain ⟨hfirst, hrest⟩ := List.forall_mem_cons.mp hle
    obtain ⟨later, hlater, h⟩ := bind_eq_ok.mp h
    obtain ⟨others, hothers, h⟩ := bind_eq_ok.mp h
    have hnot : later = false := by
      rw [later?_eq_ok hlater, decide_eq_false (Int.not_lt.mpr hfirst)]
    rw [hnot] at h
    cases h
    exact ih hothers hrest

theorem newest_cases {newest : Option Marker} (h : feed.newest = .ok newest) :
    (newest = none ∧ feed.items = []) ∨
      (∃ dates top, dates? feed.items = .ok (some dates) ∧ newest = some (.date top) ∧
        ∀ a ∈ dates, a.instant ≤ top.instant) ∨
      ∃ first rest token, feed.items = first :: rest ∧ dates? feed.items = .ok none ∧
        first.guid = some token ∧ newest = some (.token token) := by
  obtain ⟨dates, hdates, h⟩ := bind_eq_ok.mp h
  cases hitems : feed.items with
  | nil =>
    rw [hitems] at h
    exact .inl ⟨(Except.ok.inj h).symm, rfl⟩
  | cons first rest =>
    rw [hitems] at h hdates
    right
    match dates, h with
    | some (date :: others), h =>
      obtain ⟨top, htop, h⟩ := bind_eq_ok.mp h
      exact .inl ⟨_, top, hdates, (Except.ok.inj h).symm, le_latest htop⟩
    | none, h =>
      obtain ⟨token, htoken, h⟩ := bind_eq_ok.mp h
      refine .inr ⟨first, rest, token, rfl, hdates, ?_, (Except.ok.inj h).symm⟩
      cases hguid : first.guid with
      | none =>
        rw [hguid] at htoken
        cases htoken
      | some guid =>
        rw [hguid] at htoken
        exact congrArg some (Except.ok.inj htoken)
    | some [], _ =>
      -- as many dates as items, and there is an item
      obtain ⟨published, _, hdates⟩ := bind_eq_ok.mp hdates
      cases published with
      | none => cases hdates
      | some date =>
        obtain ⟨others, _, hdates⟩ := bind_eq_ok.mp hdates
        cases others <;> cases hdates

/-- If the marker of the newest item is not newer than the one at hand, no item is selected,
whatever the items are, as long as both can be told. -/
theorem since_eq_nil {items : List Item} (hnews : feed.hasNews seen = .ok false)
    (hitems : feed.since seen = .ok items) : items = [] := by
  obtain ⟨newest, hnewest, hnews⟩ := bind_eq_ok.mp hnews
  obtain ⟨dates, hdates, hitems⟩ := bind_eq_ok.mp hitems
  rcases newest_cases hnewest with ⟨_, hempty⟩ | ⟨_, top, hd, rfl, hle⟩ |
    ⟨first, rest, token, hfirst, hd, hguid, rfl⟩
  · rw [hempty] at hdates hitems
    obtain rfl : some [] = dates := Except.ok.inj hdates
    match seen with
    | none => exact (Except.ok.inj hitems).symm
    | some (.date _) => exact (Except.ok.inj hitems).symm
    | some (.token _) => exact (Except.ok.inj hitems).symm
  · obtain rfl := Except.ok.inj (hd.symm.trans hdates)
    match seen with
    | some (.date date) =>
      have hnot : ¬ date.instant < top.instant := of_decide_eq_false (later?_eq_ok hnews).symm
      refine laterThan_eq_nil hitems fun p hp => ?_
      have hown := hle p.2 (List.of_mem_zip hp).2
      omega
    | none => cases hnews
    | some (.token _) => cases hnews
  · obtain rfl := Except.ok.inj (hd.symm.trans hdates)
    match seen with
    | some (.token own) =>
      have hmatch : Marker.tokenMatches own token = .ok true := by
        apply Marker.tokenMatches_comm
        change (Marker.tokenMatches token own).map (!·) = .ok false at hnews
        cases hm : Marker.tokenMatches token own with
        | error fault =>
          rw [hm] at hnews
          cases hnews
        | ok same =>
          rw [hm] at hnews
          cases same with
          | true => rfl
          | false => cases hnews
      rw [hfirst] at hitems
      dsimp only [before?] at hitems
      rw [hguid] at hitems
      simp only [required, bind, Except.bind, hmatch, if_true, pure, Except.pure, Option.getD] at hitems
      exact (Except.ok.inj hitems).symm
    | none => cases hnews
    | some (.date _) => cases hnews

theorem exists_items_of_news (hnews : feed.news seen = .ok news) :
    ∃ items, feed.since seen = .ok items ∧ Html.body items = .ok news.body := by
  obtain ⟨items, hitems, hrest⟩ := bind_eq_ok.mp hnews
  obtain ⟨body, hbody, hrest⟩ := bind_eq_ok.mp hrest
  obtain ⟨newest, _, hrest⟩ := bind_eq_ok.mp hrest
  refine ⟨items, hitems, ?_⟩
  cases newest with
  | none =>
    cases hrest
    exact hbody
  | some marker =>
    obtain ⟨newer, _, hrest⟩ := bind_eq_ok.mp hrest
    cases hrest
    exact hbody

theorem since_of_no_news (hnews : feed.news seen = .ok news) (hfresh : news.fresh = none) :
    feed.since seen = .ok [] ∧ news.body = Html.noNews := by
  have hhas := hasNews_eq_of_news hnews
  rw [hfresh] at hhas
  obtain ⟨items, hitems, hbody⟩ := exists_items_of_news hnews
  obtain rfl : items = [] := since_eq_nil hhas hitems
  exact ⟨hitems, (Except.ok.inj hbody).symm⟩

end Feed

namespace Newsroom

variable {w : Outside} {s t : Newsroom} {h : Handle} {feed : Feed} {news : News}
  {onRequest : Bool} {o : Outcome}

/-! ### One look, two ways to cause it -/

def giveNotice (w : Outside) (h : Handle) : Engine Unit := do
  tell w .messages h (.received (.html Html.noNews) (← contactOf h))

/-- What is added to a look for someone who asked: a notice, if the look came to an outcome and
nothing was new. -/
def addNotice (w : Outside) (h : Handle) : Option Outcome → Engine (Option Outcome)
  | none => pure none
  | some o =>
    if o.hasNews then pure (some o)
    else do
      giveNotice w h
      pure (some { o with notified := true })

theorem absorb_bind_congr {α : Type} {f g : Value × News → Engine α}
    (hfg : ∀ old news seen, feed.news seen = .ok news → f (old, news) = g (old, news)) :
    absorb w h feed >>= f = absorb w h feed >>= g := by
  unfold absorb
  simp only [bind_assoc]
  refine bind_congr fun _ => bind_congr fun _ => bind_congr fun _ => ?_
  refine bind_congr fun before => bind_congr fun _ => ?_
  cases hnews : feed.news before.marker with
  | error fault => rfl
  | ok news =>
    have hrest := hfg before.name news before.marker hnews
    have hlift : lift (.ok news) = (pure news : Engine News) := rfl
    rw [hlift, pure_bind, pure_bind]
    split
    · simp only [bind_assoc, pure_bind, hrest]
    · simp only [bind_assoc, pure_bind, hrest]

theorem check_onRequest (w : Outside) (h : Handle) :
    check w h true = check w h false >>= addNotice w h := by
  have htakeIn (feed : Feed) : some <$> takeIn w h feed true
      = some <$> takeIn w h feed false >>= addNotice w h := by
    rw [takeIn_eq_absorb, takeIn_eq_absorb]
    simp only [map_bind, bind_assoc, map_pure, pure_bind]
    refine absorb_bind_congr fun old news seen hnews => ?_
    cases hfresh : news.fresh with
    | none =>
      obtain ⟨_, hbody⟩ := Feed.since_of_no_news hnews hfresh
      simp only [tellNews, giveNotice, addNotice, Outcome.of, hfresh, hbody, Option.isSome_none,
        Bool.false_or, Bool.false_eq_true, if_true, if_false, bind_assoc, pure_bind]
    | some marker =>
      simp only [tellNews, addNotice, Outcome.of, hfresh, Option.isSome_some, Bool.true_or, if_true]
  unfold check
  simp only [bind_assoc]
  refine bind_congr fun c => bind_congr fun _ => ?_
  split
  · exact htakeIn _
  · simp only [bind_assoc, pure_bind]
    rfl
  · simp only [bind_assoc, pure_bind]
    rfl
  · rfl

/-! ### Due and on request -/

/-- The look on request differs from the one that was due by a notice that nothing is new, and by
what listeners to messages make of their registrations when they hear of it. -/
structure AddsNotice (h : Handle) (o : Outcome) (due asked : Except Fault (Option Outcome) × Newsroom) :
    Prop where
  outcome : asked.1 = .ok (some { o with notified := true })
  rest : asked.2 = { due.2 with readers := asked.2.readers, trace := asked.2.trace }
  events : asked.2.events = due.2.events ++ [(h, .received (.html Html.noNews) (due.2.contact h))]

theorem exec_check_onRequest
    (hall : ∀ o, (exec (check w h false) s).1 = .ok (some o) → o.hasNews = true) :
    exec (check w h true) s = exec (check w h false) s := by
  rw [check_onRequest, exec_bind]
  rcases he : exec (check w h false) s with ⟨fault | _ | o, t⟩
  · rfl
  · rfl
  · have hnews : o.hasNews = true := hall o (congrArg Prod.fst he)
    simp only [addNotice, hnews, if_true, exec_pure]

theorem addsNotice_of_check (hw : w.Quiet) (hnews : o.hasNews = false)
    (he : exec (check w h false) s = (.ok (some o), t)) :
    AddsNotice h o (.ok (some o), t) (exec (check w h true) s) := by
  let notice := Event.received (.html Html.noNews) (t.contact h)
  have hasked : exec (check w h true) s
      = (.ok (some { o with notified := true }), t.telling w h notice) := by
    rw [check_onRequest, exec_bind, he]
    simp only [addNotice, hnews, Bool.false_eq_true, if_false, giveNotice, exec_bind,
      exec_contactOf, exec_tell_messages hw, exec_pure]
    rfl
  have hevents : (exec (tell w .messages h notice) t).2.events = t.events ++ [(h, notice)] :=
    filterMap_trace_tell (fun _ _ _ => rfl) w .messages h notice t
  rw [exec_tell_messages hw] at hevents
  rw [hasked]
  exact ⟨rfl, rfl, hevents⟩

theorem check_none (he : exec (check w h onRequest) s = (.ok none, t)) :
    t.mail = s.mail ∧ (t.contact h).marker = (s.contact h).marker := by
  cases hfetch : w.fetch (s.contact h).address with
  | error fault =>
    obtain ⟨hstanding, _⟩ := check_of_fetch_error hfetch he
    have hcontact : (t.contact h).online = (s.contact h).online := congrArg Prod.fst hstanding
    exact ⟨mail_of_fetch_error hfetch he, (congrArg Contact.marker hcontact :)⟩
  | ok feed =>
    rw [exec_check_of_fetch hfetch] at he
    cases hr : (exec (takeIn w h feed onRequest) (s.fetching h)).1 with
    | error fault =>
      rw [hr] at he
      cases he
    | ok o =>
      rw [hr] at he
      cases he

/-- All that a feed has to tell since the marker of its contact was sent, in one message; if that is
nothing, the marker stays. -/
structure Delivered (w : Outside) (h : Handle) (s t : Newsroom) (o : Outcome) (items : List Item) :
    Prop where
  since : ∃ feed, w.fetch (s.contact h).address = .ok feed ∧
    feed.since (s.contact h).marker = .ok items
  message : ∃ body, Html.body items = .ok body ∧
    t.messages = s.messages ++ [(h, .received (.html body) (t.contact h))]
  nothing : o.hasNews = false → items = [] ∧ (t.contact h).marker = (s.contact h).marker

theorem delivered_of_check (he : exec (check w h true) s = (.ok (some o), t)) :
    ∃ items, Delivered w h s t o items := by
  obtain ⟨feed, news, hfetch, hnews, rfl, hcontact, hmessages, _⟩ := check_ok he
  obtain ⟨items, hitems, hbody⟩ := Feed.exists_items_of_news hnews
  refine ⟨items, ⟨feed, hfetch, hitems⟩, ⟨news.body, hbody, ?_⟩, fun hnone => ?_⟩
  · rw [hmessages, sent, Bool.or_true, if_pos rfl]
    rfl
  · have hfresh : news.fresh = none :=
      Option.isNone_iff_eq_none.mp (Option.isSome_eq_false_iff.mp hnone)
    obtain ⟨hempty, _⟩ := Feed.since_of_no_news hnews hfresh
    refine ⟨Except.ok.inj (hitems.symm.trans hempty), ?_⟩
    rw [hcontact, hfresh]
    rfl

/-- Whether a look was due or the user asked for it makes no difference to what it does, fails with,
comes to and leaves behind, but that one who asked gets a notice when it comes to an outcome and
nothing is new; one that was due sends no message then. So what asking takes in it delivers: unless
the look fails, the one message that it sends is about all items newer than the marker. -/
theorem asking_adds_notice (hw : w.Quiet) (h : Handle) (s : Newsroom) :
    let due := exec (check w h false) s
    let asked := exec (check w h true) s
    ((∀ o, due.1 = .ok (some o) → o.hasNews = true) → asked = due) ∧
      (∀ o, due.1 = .ok (some o) → o.hasNews = false →
        due.2.messages = s.messages ∧ AddsNotice h o due asked) ∧
      (∀ o, asked.1 = .ok (some o) → ∃ items, Delivered w h s asked.2 o items) ∧
      (asked.1 = .ok none →
        asked.2.messages = s.messages ∧ (asked.2.contact h).marker = (s.contact h).marker) := by
  intro due asked
  have hdue : exec (check w h false) s = (due.1, due.2) := rfl
  have hasked : exec (check w h true) s = (asked.1, asked.2) := rfl
  refine ⟨exec_check_onRequest, fun o ho hnone => ⟨?_, ?_⟩, fun o ho => ?_, fun ho => ?_⟩
  · rw [ho] at hdue
    obtain ⟨feed, news, _, _, rfl, _, hmessages, _⟩ := check_ok hdue
    have hfresh : news.fresh.isSome = false := hnone
    rw [hmessages, sent, hfresh]
    exact List.append_nil _
  · rw [ho] at hdue
    have hadds := addsNotice_of_check hw hnone hdue
    rwa [← hdue] at hadds
  · rw [ho] at hasked
    exact delivered_of_check hasked
  · rw [ho] at hasked
    obtain ⟨hmail, hmarker⟩ := check_none hasked
    exact ⟨congrArg (·.1) hmail, hmarker⟩

/-- Someone who asks for a feed without items is told that nothing is new. -/
theorem notice_of_empty_feed :
    let w := Outside.showing (Feed.bare [])
    let due := exec (check w 0 false) bare
    (exec (check w 0 true) bare).2.events
      = due.2.events ++ [(0, .received (.html Html.noNews) (due.2.contact 0))] := by
  intro w due
  have hquiet : w.Quiet := Outside.quiet_showing _
  obtain ⟨_, hadds, _⟩ := asking_adds_notice hquiet 0 bare
  exact (hadds ⟨true, false, false⟩ rfl rfl).2.events

/-- It is not so that what a later look would tell of the same items is told, by it or before, when
someone has asked in between: where the store does not take the title, the marker has moved and no
message was sent. -/
theorem batch_lost_by_asking :
    ¬ ∀ (w later : Outside) (h : Handle) (s : Newsroom) (feed again : Feed) (message : Message),
      w.Quiet → later.Quiet → w.fetch (s.contact h).address = .ok feed →
      later.fetch (s.contact h).address = .ok again → again.items = feed.items →
      (exec (check later h false) s).2.received h = s.received h ++ [message] →
      message ∈ (exec (check later h false) (exec (check w h true) s).2).2.received h := by
  intro hall
  let unwritable : Feed := { Feed.bare ["a"] with title := .text (Text.ofCodes [0xD800]) }
  let w := Outside.showing unwritable
  let later := Outside.showing (Feed.bare ["a"])
  let s := blank.course [⟨later, .subscribe (some "http://a/f") .null⟩]
  obtain ⟨body, hbody⟩ : ∃ body, Html.body [.bare "a"] = .ok body := ⟨_, rfl⟩
  have hdue : (exec (check later 0 false) s).2.received 0 = s.received 0 ++ [.html body] := by
    cases hbody
    rfl
  have hmem := hall w later 0 s unwritable (Feed.bare ["a"]) (.html body)
    (Outside.quiet_showing _) (Outside.quiet_showing _) rfl rfl rfl hdue
  let t := (exec (check w 0 true) s).2
  have hunsent : t.received 0 = [] := rfl
  have hmarker : (t.contact 0).marker = some (.token (.text "a")) := rfl
  have hsound : (Feed.bare ["a"]).Sound (t.contact 0).marker := Feed.sound_bare _ fun token hm => by
    rw [hmarker] at hm
    cases hm
    exact ⟨_, rfl⟩
  have hnewest : (Feed.bare ["a"]).Newest (t.contact 0).marker := by
    rw [hmarker]
    exact ⟨by decide, ⟨_, rfl⟩, _, _, rfl, rfl⟩
  obtain ⟨news, hnews, htells⟩ := hsound.exists_news
  have hnone : sent news false = [] := by
    rw [hmarker] at htells hnewest
    rw [sent, htells.fresh, hnewest.selection_eq_nil]
    rfl
  have hfetch : later.fetch (t.contact 0).address = .ok (Feed.bare ["a"]) := rfl
  rcases he : exec (check later 0 false) t with ⟨r, u⟩
  have hlater := (check_of_news hfetch hnews he).1
  rw [hnone, List.append_nil, or_self, hunsent] at hlater
  have hmem : Message.html body ∈ (exec (check later 0 false) t).2.received 0 := hmem
  rw [he, hlater] at hmem
  cases hmem

end Newsroom

end Newswire

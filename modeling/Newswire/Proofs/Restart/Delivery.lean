import Newswire.Proofs.Delivery.Runs
import Newswire.Proofs.Restart.Filing

/-!
Delivery across a restart. A contact is saved with its new name and its new marker before anyone is
told of either, and both are read back as they were written. So whoever fails on being told, a list
that is loaded afterwards knows that the news of the feed were taken in, and tells nobody of them
again.
-/

namespace Newswire

namespace Feed

variable {feed : Feed} {seen : Option Marker} {news : News}

theorem Newest.lasting {m : Marker} (h : feed.Newest (some m))
    (hd : ∀ d ∈ feed.moments, d.Legible) : m.Lasting := by
  cases m with
  | date d => exact hd d h.2.1
  | token t => exact h.2.1

/-- For someone who has taken a feed in there is nothing new in it. -/
theorem Sound.exists_no_news (hs : feed.Sound seen) (hnews : feed.news seen = .ok news) :
    ∃ again, feed.news (news.fresh.or seen) = .ok again ∧ again.fresh = none := by
  obtain ⟨own, hown, htells⟩ := hs.exists_news
  obtain rfl : own = news := Except.ok.inj (hown.symm.trans hnews)
  cases hfresh : own.fresh with
  | none => exact ⟨own, hnews, hfresh⟩
  | some m =>
    obtain ⟨_, hnewest⟩ := htells.newest m hfresh
    obtain ⟨again, hagain, htells'⟩ := (hs.of_newest hnewest).exists_news
    exact ⟨again, hagain, (fresh_eq_none_iff htells'.fresh).mpr hnewest.selection_eq_nil⟩

end Feed

def Entry.event? : Entry → Option (Handle × Event)
  | .happened about event => some (about, event)
  | _ => none

namespace Newsroom

def events (s : Newsroom) : List (Handle × Event) :=
  s.trace.filterMap Entry.event?

/-- Between two newsrooms a listener heard of an event and failed with the fault. -/
def Failed (w : Outside) (s t : Newsroom) (fault : Fault) : Prop :=
  ∃ topic listener event, Entry.heard topic listener event ∈ t.trace.drop s.trace.length ∧
    Reaction.fail fault ∈ w.react topic listener event

variable {s t : Newsroom} {w : Outside} {h : Handle} {feed : Feed} {news : News}
  {onRequest : Bool}

/-! ### Looks at which nothing is new -/

theorem events_noting (s : Newsroom) (notes : List Journal.Note) :
    (s.noting notes).events = s.events := by
  have hnone : (notes.map Entry.noted).filterMap Entry.event? = [] := by
    rw [List.filterMap_map, List.filterMap_eq_nil_iff]
    exact fun _ _ => rfl
  rw [events, noting, List.filterMap_append, hnone, List.append_nil]
  rfl

theorem withContact_contact (s : Newsroom) (h : Handle) :
    s.withContact h (s.contact h) = s := by
  have hcontact : (s.withContact h (s.contact h)).contact = s.contact := by
    funext i
    by_cases hi : i = h
    · rw [hi, contact_withContact]
    · exact contact_withContact_of_ne _ _ hi
  exact congrArg (fun c => { s with contact := c }) hcontact

theorem exec_check_of_no_news (hfetch : w.fetch (s.contact h).address = .ok feed)
    (honline : (s.contact h).online = s.contact h) (hname : (s.contact h).name = feed.title)
    (hsame : feed.title.same feed.title = true) (hnews : feed.news (s.contact h).marker = .ok news)
    (hfresh : news.fresh = none) :
    ∃ notes, exec (check w h false) s
      = (.ok (some ⟨false, false, false⟩), (s.fetching h).noting notes) := by
  obtain ⟨notes, hwarn⟩ := exec_warnings feed
    (fun warning => feedText (addressText (s.contact h).address) ++ ": " ++ warning) (s.fetching h)
  have hp : (s.contact h).presence ≠ .offline := by
    rw [← honline]
    exact fun h => nomatch h
  have hkept : ((s.fetching h).noting notes).withContact h
      { s.contact h with name := feed.title } = (s.fetching h).noting notes := by
    rw [← hname]
    exact withContact_contact _ h
  refine ⟨notes, ?_⟩
  rw [exec_check_of_fetch hfetch, takeIn_eq]
  have hback : exec (comeBack h) ((s.fetching h).noting notes)
      = (.ok (), (s.fetching h).noting notes) := by
    simp only [comeBack, exec_bind, exec_contactOf]
    exact congrArg (exec · _) (if_neg hp)
  have hcontact : ((s.fetching h).noting notes).contact h = s.contact h := rfl
  have hstart : (s.fetching h).contact h = s.contact h := rfl
  simp only [exec_bind, exec_contactOf, hstart, hwarn, hback, hcontact, exec_edit, hkept,
    exec_lift, hnews, hfresh]
  unfold announce tellChange tellNews
  simp only [hname, hsame, hfresh, Outcome.of]
  rfl

theorem events_fetching (s : Newsroom) (h : Handle) : (s.fetching h).events = s.events :=
  (List.filterMap_append ..).trans (List.append_nil _)

theorem check_of_no_news (hfetch : w.fetch (s.contact h).address = .ok feed)
    (honline : (s.contact h).online = s.contact h) (hname : (s.contact h).name = feed.title)
    (hsame : feed.title.same feed.title = true) (hnews : feed.news (s.contact h).marker = .ok news)
    (hfresh : news.fresh = none) :
    ∃ t, exec (check w h false) s = (.ok (some ⟨false, false, false⟩), t) ∧
      t.contact = s.contact ∧ t.events = s.events := by
  obtain ⟨notes, he⟩ := exec_check_of_no_news hfetch honline hname hsame hnews hfresh
  exact ⟨_, he, rfl, (events_noting _ notes).trans (events_fetching s h)⟩

/-! ### Looks that fail when they tell -/

variable {store : Store} {row : Row} {now : Moment} {title : String}

theorem filed_of_mem (hstore : s.store = some store) (hopen : store.isOpen = true)
    (hsound : store.Sound) (hrow : row ∈ store.rows)
    (ha : (s.contact h).address = some row.address) :
    (s.affairs h).filed = some ⟨[row], 0, true⟩ := by
  simp only [affairs, hstore, Option.map_some, ha, hsound.only_eq hrow, hopen]

theorem mem_of_filed (hfiled : (s.affairs h).filed = some ⟨[row], 0, true⟩)
    (hstore : s.store = some store) : row ∈ store.rows := by
  simp only [affairs, hstore, Option.map_some, Option.some.injEq] at hfiled
  have hrows : (store.only (s.contact h).address).rows = [row] := congrArg Store.rows hfiled
  exact (Store.mem_rows_only.mp (hrows ▸ List.mem_singleton_self row)).1

theorem says_of_check (hrow : (s.affairs h).Says row now) (hp : (s.contact h).persistent = true)
    (htitle : feed.title = .text title) (hdates : ∀ d ∈ feed.moments, d.Legible)
    (hnews : feed.news (s.contact h).marker = .ok news)
    (htells : feed.Tells (s.contact h).marker news)
    (hfetch : w.fetch (s.contact h).address = .ok feed) {r : Except Fault (Option Outcome)}
    (he : exec (check w h onRequest) s = (r, t))
    (hended : ∀ fault, r = .error fault → Failed w s t fault) :
    t.contact h = (s.contact h).takingIn feed news.fresh ∧ ∃ row', (t.affairs h).Says row' now := by
  obtain ⟨haffairs, hfailed⟩ := affairs_takeIn w h feed onRequest (s.fetching h)
  rw [affairs_fetching] at haffairs hfailed
  rw [exec_check_of_fetch hfetch] at he
  have ht : (exec (takeIn w h feed onRequest) (s.fetching h)).2 = t := congrArg Prod.snd he
  have hr : (exec (takeIn w h feed onRequest) (s.fetching h)).1.map some = r :=
    congrArg Prod.fst he
  rw [ht] at haffairs hfailed
  rcases htaken : (s.affairs h).takeIn feed with ⟨fault | _, b⟩
  · -- then all that was written down are notes, and nobody heard of anything
    rw [htaken] at hfailed
    obtain ⟨hresult, notes, htrace⟩ := hfailed fault rfl
    rw [hresult] at hr
    obtain ⟨topic, listener, event, hheard, _⟩ := hended fault hr.symm
    have hentries : t.trace
        = s.trace ++ .fetched h (s.contact h).address :: notes.map Entry.noted := by
      rw [htrace]
      exact List.append_assoc ..
    rw [hentries, List.drop_left] at hheard
    rcases List.mem_cons.mp hheard with hheard | hheard
    · cases hheard
    · obtain ⟨_, _, hnote⟩ := List.mem_map.mp hheard
      cases hnote
  · rw [htaken] at haffairs
    have hfresh : ∀ m, news.fresh = some m → m.Lasting :=
      fun m hm => (htells.newest m hm).2.lasting hdates
    obtain ⟨hcontact, row', hb⟩ := hrow.takeIn hp htitle hnews hfresh htaken
    rw [haffairs]
    exact ⟨(congrArg Affairs.contact haffairs).trans hcontact, row', hb⟩

/-- However a look at a feed ends, unless it fails for another reason than a listener, a list that
is loaded afterwards holds the contact once, and a look at the same feed finds nothing new: it
changes no contact and no event happens, whoever listens. -/
theorem at_most_once_across_restart (hstore : s.store = some store) (hopen : store.isOpen = true)
    (hsound : store.Sound) (hrow : row ∈ store.rows)
    (hreads : row.contact now = .ok (s.contact h)) (hp : (s.contact h).persistent = true)
    (htitle : feed.title = .text title) (hfeed : feed.Sound (s.contact h).marker)
    (hdates : ∀ d ∈ feed.moments, d.Legible)
    (hfetch : w.fetch (s.contact h).address = .ok feed) {r : Except Fault (Option Outcome)}
    (he : exec (check w h onRequest) s = (r, t))
    (hended : ∀ fault, r = .error fault → Failed w s t fault) {clockwork : Clockwork}
    {begin : Engine Unit} (hbegin : Begins clockwork begin) (later : Outside) :
    ∃ n u i, exec (do begin; load later) t = (.ok n, u) ∧ i ∈ u.roster ∧
      (u.contact i).address = (s.contact h).address ∧
      (∀ j ∈ u.roster, (u.contact j).address = (s.contact h).address → j = i) ∧
      ∀ (readers watchers : Audience Listener) (w' : Outside),
        w'.fetch (s.contact h).address = .ok feed →
        let heard := { u with readers := readers, watchers := watchers }
        ∃ v, exec (check w' i false) heard = (.ok (some ⟨false, false, false⟩), v) ∧
          v.contact = heard.contact ∧ v.events = heard.events := by
  obtain ⟨news, hnews, htells⟩ := hfeed.exists_news
  have hfiled := filed_of_mem hstore hopen hsound hrow (Row.address_of_contact hreads)
  have hown : (s.affairs h).Says row now := ⟨hfiled, hreads⟩
  obtain ⟨hcontact, row', hnow⟩ :=
    says_of_check hown hp htitle hdates hnews htells hfetch he hended
  have hspared := sparing_check (List.mem_singleton_self h) w onRequest s
  rw [he] at hspared
  obtain ⟨store', hstore', hsparing⟩ := hspared.exists_store hstore
  obtain ⟨cs, u, hall, hload, hafresh⟩ :=
    exec_afresh hstore' (hsparing.isOpen.trans hopen) (hsparing.sound hsound) hbegin later
  obtain ⟨c, hc, hread⟩ := Store.exists_mem_of_all hall (mem_of_filed hnow.filed hstore')
  have hsame : c = { t.contact h with created := c.created } := Row.contact_at hnow.reads hread
  rw [hcontact] at hsame
  have haddress : c.address = (s.contact h).address := by
    rw [hsame]
    rfl
  obtain ⟨i, hi, hic⟩ := List.mem_map.mp (hafresh.contacts ▸ hc : c ∈ u.contacts)
  have hdistinct : (u.contacts.map Contact.address).Nodup := by
    rw [hafresh.contacts]
    exact Store.nodup_addresses_of_all (hsparing.sound hsound).unique hall
  refine ⟨cs.length, u, i, hload, hi, by rw [hic, haddress], fun j hj hja => ?_, ?_⟩
  · exact eq_of_address hdistinct hj hi (by rw [hja, hic, haddress])
  · intro readers watchers w' hfetch' heard
    obtain ⟨again, hagain, hnone⟩ := hfeed.exists_no_news hnews
    have hheard : heard.contact i = c := hic
    have hfetched : w'.fetch (heard.contact i).address = .ok feed := by
      rw [hheard, haddress]
      exact hfetch'
    refine check_of_no_news hfetched ?_ ?_ ?_ ?_ hnone
    · rw [hheard, hsame]
      rfl
    · rw [hheard, hsame]
      rfl
    · rw [htitle, Value.same_text, beq_self_eq_true]
    · rw [hheard, hsame]
      exact hagain

def plainRow (address name : String) : Row :=
  ⟨1, address, name, Presence.online.word, none, true, ""⟩

/-- A list of one contact over its row, and someone who watches contacts. -/
def watched (now : Moment) : Newsroom :=
  { bare with
    size := 1
    contact := fun _ => ⟨some "a", .text "Old", .online, none, true, some now, some 1⟩
    roster := [0]
    store := some ⟨[plainRow "a" "Old"], 1, true⟩
    watchers := ⟨.properties, ["watcher"]⟩ }

/-- When one who watches contacts fails, the store is closed and opened and a new list is loaded,
the next look finds nothing new. -/
theorem nothing_new_after_failed_watcher :
    let feed := Feed.bare ["b", "a"]
    let failing : Outside := { Outside.showing feed with
      react := fun topic _ _ => if topic = .properties then [.fail (.raised "boom")] else [] }
    let failed := look 0 (watched failing.now) ⟨failing, false⟩
    failed.1 = .error (.raised "boom") ∧
      ∃ n u i v, exec (do restart bare.clockwork; load failing) failed.2 = (.ok n, u) ∧
        exec (check (.showing feed) i false) u = (.ok (some ⟨false, false, false⟩), v) ∧
        v.events = u.events := by
  intro feed failing failed
  have hreads : (plainRow "a" "Old").contact failing.now
      = .ok ((watched failing.now).contact 0) := rfl
  have hsound : (⟨[plainRow "a" "Old"], 1, true⟩ : Store).Sound :=
    ⟨by decide, fun row hrow => ⟨failing.now, _, List.mem_singleton.mp hrow ▸ hreads⟩⟩
  have hfeed : feed.Sound none := Feed.sound_bare _ fun _ htoken => nomatch htoken
  have he : exec (check failing 0 false) (watched failing.now) = (failed.1, failed.2) := rfl
  have hended : ∀ fault, failed.1 = .error fault →
      Failed failing (watched failing.now) failed.2 fault := by
    rintro fault ⟨⟩
    -- the look asked for the feed, the contact was renamed, and the watcher heard of that
    exact ⟨.properties, "watcher", _, .tail _ (.tail _ (.head _)), .head _⟩
  obtain ⟨n, u, i, hload, _, haddress, _, hquiet⟩ := at_most_once_across_restart rfl rfl hsound
    (List.mem_singleton_self _) hreads rfl rfl hfeed (fun _ hd => nomatch hd) rfl he hended
    (.inr rfl) failing
  obtain ⟨v, hv, _, hevents⟩ := hquiet u.readers u.watchers (.showing feed) rfl
  exact ⟨rfl, n, u, i, v, hload, hv, hevents⟩

end Newsroom

end Newswire

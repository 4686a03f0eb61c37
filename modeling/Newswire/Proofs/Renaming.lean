import Newswire.Proofs.Acts
import Newswire.Proofs.Delivery.Runs
import Newswire.Proofs.Naming

/-!
The names of a contact. A look gives it the title of the feed before it is known whether the rest of
the look can be done, and tells only then from which name to which it went. So what was told leads
from the first name to the last as long as no look fails in between. A look that does slips over the
rename: nobody hears of it, then or later, and the store keeps the old name.
-/

namespace Newswire

def Event.rename? : Event → Option (Value × Value)
  | .changed _ property old new => if property = nameProperty then some (old, new) else none
  | _ => none

/-- The rename of a contact that was told when this happened, if there is one. -/
def Entry.rename? (h : Handle) : Entry → Option (Value × Value)
  | .happened about event => if about = h then event.rename? else none
  | _ => none

def Newsroom.renames (s : Newsroom) (h : Handle) : List (Value × Value) :=
  s.trace.filterMap (Entry.rename? h)

/-- The renames lead from one name to another: each begins where the one before has led, and without
any it is the same name. -/
def Leads : Value → List (Value × Value) → Value → Prop
  | first, [], last => last = first
  | first, (old, new) :: rest, last => old = first ∧ Leads new rest last

theorem leads_append {first middle last : Value} {renames more : List (Value × Value)}
    (hs : Leads first renames middle) (ht : Leads middle more last) :
    Leads first (renames ++ more) last := by
  induction renames generalizing first with
  | nil =>
    obtain rfl : middle = first := hs
    exact ht
  | cons rename rest ih => exact ⟨hs.1, ih hs.2⟩

theorem Leads.unique {first last other : Value} {renames : List (Value × Value)}
    (hs : Leads first renames last) (ht : Leads first renames other) : last = other := by
  induction renames generalizing first with
  | nil => exact Eq.trans hs ht.symm
  | cons rename rest ih => exact ih hs.2 ht.2

namespace Newsroom

variable {s t : Newsroom} {h : Handle} {v : Visit} {feed : Feed}

/-! ### What is told of names -/

theorem renames_of_notes {notes : List Journal.Note}
    (htrace : t.trace = s.trace ++ notes.map Entry.noted) : t.renames h = s.renames h := by
  have hnotes : (notes.map Entry.noted).filterMap (Entry.rename? h) = [] := by
    rw [List.filterMap_map]
    exact List.filterMap_eq_nil_iff.mpr fun note _ => rfl
  rw [renames, htrace, List.filterMap_append, hnotes, List.append_nil]
  rfl

theorem keeps_renames_record {entry : Entry} (he : entry.rename? h = none) :
    Keeps (·.renames h) (record entry) := by
  intro s
  refine (List.filterMap_append ..).trans ?_
  rw [List.filterMap_cons_none he, List.filterMap_nil, List.append_nil]
  rfl

theorem keeps_renames_tell {event : Event} (he : event.rename? = none) (w : Outside) (topic : Topic)
    (about : Handle) : Keeps (·.renames h) (tell w topic about event) := by
  intro s
  refine (filterMap_trace_tell (fun _ _ _ => rfl) w topic about event s).trans ?_
  rw [Entry.rename?, he, ite_self]
  exact List.append_nil _

theorem keeps_renames_tellNews (w : Outside) (i : Handle) (feed : Feed) (news : News)
    (onRequest : Bool) : Keeps (·.renames h) (tellNews w i feed news onRequest) := by
  unfold tellNews
  refine .ite ?_ (.pure _)
  refine .ite (.bind (keeps_renames_record rfl) fun _ => ?_) ?_
  all_goals exact .bind (fun _ => rfl) fun _ => keeps_renames_tell rfl w .messages i

theorem renames_announce (w : Outside) (old : Value) (news : News) (onRequest : Bool)
    {changed : Bool} (hchanged : (!feed.title.same old || news.fresh.isSome) = changed)
    (hs : ((s.affairs h).record changed).1 = .ok ()) :
    (exec (announce w h old feed news onRequest) s).2.renames h
      = s.renames h ++ if changed then [(old, feed.title)] else [] := by
  have hrest : ∀ _ : Unit, Keeps (·.renames h) (do
      tellNews w h feed news onRequest
      pure (Outcome.of old feed news onRequest)) :=
    fun _ => (keeps_renames_tellNews w h feed news onRequest).bind fun _ => .pure _
  refine (Keeps.after hrest (tellChange w h old feed news) s).trans ?_
  unfold tellChange propertyChanged
  rw [hchanged]
  cases changed with
  | false => exact (List.append_nil _).symm
  | true =>
    obtain ⟨store, hsave, _⟩ := affairs_save h s
    have hsaved : (s.affairs h).save.1 = .ok () := hs
    rw [hsaved] at hsave
    simp only [if_true, exec_bind, hsave, exec_contactOf]
    refine (filterMap_trace_tell (fun _ _ _ => rfl) w _ _ _ _).trans ?_
    simp only [Entry.rename?, Event.rename?, if_true, Option.toList_some]
    rfl

theorem renames_look (hfetch : v.world.fetch (s.contact h).address = .ok feed) :
    ((∃ fault, ((s.affairs h).takeIn feed).1 = .error fault) ∧
        (look h s v).2.renames h = s.renames h) ∨
      ((s.affairs h).takeIn feed).1 = .ok () ∧ ∃ changed : Bool,
        (changed = false → feed.title.same (s.contact h).name = true) ∧
        (look h s v).2.renames h
          = s.renames h ++ if changed then [((s.contact h).name, feed.title)] else [] := by
  have hstart : (s.fetching h).renames h = s.renames h := keeps_renames_record rfl s
  have hlook : (look h s v).2 = (exec (takeIn v.world h feed v.onRequest) (s.fetching h)).2 :=
    congrArg Prod.snd (exec_check_of_fetch hfetch v.onRequest)
  obtain ⟨t, notes, htrace, hcases⟩ :=
    exec_takeIn_cases v.world h feed v.onRequest (s.fetching h)
  have ht : t.renames h = s.renames h := (renames_of_notes htrace).trans hstart
  rw [affairs_fetching] at hcases
  rw [hlook]
  obtain ⟨fault, htaken, hrun⟩ | ⟨news, htaken, hrun⟩ := hcases
  · rw [htaken, hrun]
    exact .inl ⟨⟨fault, rfl⟩, ht⟩
  · obtain ⟨_, hfailed⟩ :=
      affairs_announce v.world h (s.contact h).name feed news v.onRequest t
    have hname : ((s.fetching h).contact h).name = (s.contact h).name := rfl
    rw [htaken, hrun, hname]
    generalize hchanged : (!feed.title.same (s.contact h).name || news.fresh.isSome) = changed
    rw [hchanged] at hfailed
    cases hrecord : ((t.affairs h).record changed).1 with
    | error fault =>
      refine .inl ⟨⟨fault, rfl⟩, Eq.trans ?_ ht⟩
      rw [renames, (hfailed fault hrecord).2]
      rfl
    | ok _ =>
      refine .inr ⟨rfl, changed, fun hsame => ?_, ?_⟩
      · rw [hsame, Bool.or_eq_false_iff, Bool.not_eq_false'] at hchanged
        exact hchanged.1
      · rw [renames_announce v.world (s.contact h).name news v.onRequest hchanged hrecord, ht]

/-! ### Looks that slip over a rename -/

/-- The look fails after the contact has got another name: the feed was had and the contact is back
online, but the feed cannot tell its news, or the store does not take the contact as it is then. -/
def Slips (h : Handle) (s : Newsroom) (v : Visit) : Prop :=
  ∃ feed, v.world.fetch (s.contact h).address = .ok feed ∧ feed.title ≠ (s.contact h).name ∧
    ((s.contact h).presence = .offline → s.CanSave (s.contact h)) ∧
    ∀ news, feed.news (s.contact h).marker = .ok news →
      ¬ s.CanSave ((s.contact h).takingIn feed news.fresh)

/-- What was told between two newsrooms leads from the name of the contact in the one to its name in
the other. -/
def Told (h : Handle) (s t : Newsroom) : Prop :=
  ∃ told, t.renames h = s.renames h ++ told ∧ Leads (s.contact h).name told (t.contact h).name

/-- Whatever feed is had bears a title that is a text. -/
def Visit.Titled (v : Visit) (address : Option String) : Prop :=
  ∀ feed, v.world.fetch address = .ok feed → ∃ title, feed.title = .text title

theorem Told.refl (h : Handle) (s : Newsroom) : Told h s s :=
  ⟨[], (List.append_nil _).symm, rfl⟩

theorem Told.trans {u : Newsroom} (hst : Told h s t) (htu : Told h t u) : Told h s u := by
  obtain ⟨told, hs, hleads⟩ := hst
  obtain ⟨more, ht, hon⟩ := htu
  exact ⟨told ++ more, by rw [ht, hs, List.append_assoc], leads_append hleads hon⟩

theorem affairs_look_of_fetch (hfetch : v.world.fetch (s.contact h).address = .ok feed) :
    (look h s v).2.affairs h = ((s.affairs h).takeIn feed).2 := by
  have hafter := affairs_check v.world h v.onRequest s
  rw [hfetch] at hafter
  exact hafter

theorem name_look_of_fetch (hfetch : v.world.fetch (s.contact h).address = .ok feed) :
    ((look h s v).2.contact h).name = ((s.affairs h).takeIn feed).2.contact.name := by
  rw [← affairs_look_of_fetch hfetch]
  rfl

theorem slips_iff {title : String} (hfetch : v.world.fetch (s.contact h).address = .ok feed)
    (htitle : feed.title = .text title) :
    Slips h s v ↔ (∃ fault, ((s.affairs h).takeIn feed).1 = .error fault) ∧
      ((look h s v).2.contact h).name ≠ (s.contact h).name := by
  have hcontact : (s.affairs h).contact = s.contact h := rfl
  have hback : (s.affairs h).CanFile (s.contact h) ↔ s.CanSave (s.contact h) :=
    canFile_affairs_iff rfl
  have htaking (news : News) : (s.affairs h).CanFile ((s.contact h).takingIn feed news.fresh) ↔
      s.CanSave ((s.contact h).takingIn feed news.fresh) := canFile_affairs_iff rfl
  have hvain := Affairs.renamed_in_vain_iff (a := s.affairs h) htitle
  simp only [hcontact, hback, htaking] at hvain
  rw [name_look_of_fetch hfetch, hvain]
  constructor
  · rintro ⟨other, hother, hslips⟩
    obtain rfl : feed = other := Except.ok.inj (hfetch.symm.trans hother)
    exact hslips
  · exact fun hslips => ⟨feed, hfetch, hslips⟩

theorem look_of_no_feed {fault : Fault}
    (hfetch : v.world.fetch (s.contact h).address = .error fault) :
    (look h s v).2.renames h = s.renames h ∧
      ((look h s v).2.contact h).name = (s.contact h).name := by
  let view (u : Newsroom) := ((u.contact h).name, u.renames h)
  have hpresence (p : Presence) : Keeps view (edit h fun c => { c with presence := p }) := by
    intro u
    show (((u.withContact h _).contact h).name, _) = _
    rw [contact_withContact]
    rfl
  have hbound : RecoveryBound h fun u v => view v = view u :=
    .of_view (fun _ u => congrArg (Prod.mk _) (keeps_renames_record rfl u))
      (fun _ _ u => congrArg (Prod.mk _) (keeps_renames_record rfl u)) hpresence
      fun _ _ _ _ => rfl
  obtain ⟨hkept, _⟩ := check_within hbound hfetch v.onRequest
  exact ⟨(congrArg Prod.snd hkept).trans (keeps_renames_record rfl s), congrArg Prod.fst hkept⟩

theorem look_of_slips (htitled : v.Titled (s.contact h).address) (hslips : Slips h s v) :
    (look h s v).2.renames h = s.renames h ∧
      ((look h s v).2.contact h).name ≠ (s.contact h).name := by
  obtain ⟨feed, hfetch, _⟩ := id hslips
  obtain ⟨title, htitle⟩ := htitled feed hfetch
  obtain ⟨⟨fault, hfails⟩, hname⟩ := (slips_iff hfetch htitle).mp hslips
  rcases renames_look hfetch with ⟨_, htold⟩ | ⟨hok, _⟩
  · exact ⟨htold, hname⟩
  · cases hfails.symm.trans hok

/-- Any other look tells the rename if there is one. -/
theorem told_look (htitled : v.Titled (s.contact h).address) (hslips : ¬ Slips h s v) :
    Told h s (look h s v).2 := by
  cases hfetch : v.world.fetch (s.contact h).address with
  | error fault =>
    obtain ⟨htold, hname⟩ := look_of_no_feed hfetch
    exact ⟨[], htold.trans (List.append_nil _).symm, hname⟩
  | ok feed =>
    obtain ⟨title, htitle⟩ := htitled feed hfetch
    rw [slips_iff hfetch htitle] at hslips
    rcases renames_look hfetch with ⟨hfails, htold⟩ | ⟨hok, changed, hsame, htold⟩
    · have hname := not_not.mp fun hne => hslips ⟨hfails, hne⟩
      exact ⟨[], htold.trans (List.append_nil _).symm, hname⟩
    · refine ⟨_, htold, ?_⟩
      rw [name_look_of_fetch hfetch, Affairs.name_takeIn (Affairs.comeBack_of_takeIn hok)]
      cases changed with
      | false =>
        rw [htitle] at hsame ⊢
        exact (Value.same_text_iff.mp (hsame rfl)).symm
      | true => exact ⟨rfl, rfl⟩

/-- What leads to the name before a look that slips leads to no other name afterwards. -/
theorem told_look_iff (htitled : v.Titled (t.contact h).address) (htold : Told h s t) :
    Told h s (look h t v).2 ↔ ¬ Slips h t v := by
  constructor
  · intro hafter hslips
    obtain ⟨told, hrenames, hleads⟩ := htold
    obtain ⟨told', hrenames', hleads'⟩ := hafter
    obtain ⟨hsame, hname⟩ := look_of_slips htitled hslips
    rw [hsame, hrenames] at hrenames'
    obtain rfl := List.append_cancel_left hrenames'
    exact hname (hleads'.unique hleads)
  · intro hslips
    exact htold.trans (told_look htitled hslips)

/-! ### Names on file -/

/-- What the store holds at the address of the contact bears its name, and it holds something while
the contact is in the list. -/
def NamedOnFile (h : Handle) (s : Newsroom) : Prop :=
  ∀ store, s.store = some store →
    (∀ row ∈ store.rows, some row.address = (s.contact h).address →
      (s.contact h).name = .text row.name) ∧
    (h ∈ s.roster → store.holds (s.contact h).address = true)

theorem affairs_named_iff :
    (s.affairs h).Named ↔ s.roster.count h ≤ 1 ∧ NamedOnFile h s := by
  have hlisted : (s.affairs h).listed ≠ 0 ↔ h ∈ s.roster :=
    Nat.pos_iff_ne_zero.symm.trans List.count_pos_iff
  constructor
  · intro hnamed
    refine ⟨hnamed.once, fun store hstore => ⟨fun row hrow ha => ?_, fun hh => ?_⟩⟩
    · exact (hnamed.rows _ (congrArg (Option.map _) hstore) row
        (Store.mem_rows_only.mpr ⟨hrow, ha⟩)).2
    · exact Store.rows_only_ne_nil_iff.mp
        (hnamed.held (hlisted.mpr hh) _ (congrArg (Option.map _) hstore))
  · rintro ⟨honce, hnamed⟩
    refine ⟨fun own hown row hrow => ?_, honce, fun hne own hown => ?_⟩
    · obtain ⟨store, hstore, rfl⟩ := Option.map_eq_some_iff.mp hown
      obtain ⟨hrow, ha⟩ := Store.mem_rows_only.mp hrow
      exact ⟨ha, (hnamed store hstore).1 row hrow ha⟩
    · obtain ⟨store, hstore, rfl⟩ := Option.map_eq_some_iff.mp hown
      exact Store.rows_only_ne_nil_iff.mpr ((hnamed store hstore).2 (hlisted.mp hne))

/-- The store holds something at the address of the contact. -/
def OnFile (h : Handle) (s : Newsroom) : Prop :=
  ∃ store, s.store = some store ∧ store.holds (s.contact h).address = true

theorem affairs_unfiled_iff : (s.affairs h).Unfiled ↔ ¬ OnFile h s := by
  constructor
  · rintro hnone ⟨store, hstore, hheld⟩
    have hrows := hnone _ (congrArg (Option.map _) hstore)
    exact Store.rows_only_ne_nil_iff.mpr hheld hrows
  · intro hnone own hown
    obtain ⟨store, hstore, rfl⟩ := Option.map_eq_some_iff.mp hown
    exact not_not.mp fun hne => hnone ⟨store, hstore, Store.rows_only_ne_nil_iff.mp hne⟩

theorem named_look_iff (htitled : v.Titled (s.contact h).address)
    (hp : (s.contact h).persistent = true) (hnamed : (s.affairs h).Named) :
    ((look h s v).2.affairs h).Named ↔ (Slips h s v → ¬ OnFile h s) := by
  cases hfetch : v.world.fetch (s.contact h).address with
  | error fault =>
    have hnone : ¬ Slips h s v := fun ⟨_, hfeed, _⟩ => nomatch hfetch.symm.trans hfeed
    have hlook : (look h s v).2.affairs h = _ := affairs_check v.world h v.onRequest s
    refine iff_of_true ?_ fun hslips => absurd hslips hnone
    rw [hlook, hfetch]
    unfold Affairs.look
    split
    · next hok => cases hok
    · exact hnamed.recover hp _
    · exact hnamed
  | ok feed =>
    obtain ⟨title, htitle⟩ := htitled feed hfetch
    rw [affairs_look_of_fetch hfetch, slips_iff hfetch htitle, name_look_of_fetch hfetch]
    by_cases hvain : (∃ fault, ((s.affairs h).takeIn feed).1 = .error fault) ∧
        ((s.affairs h).takeIn feed).2.contact.name ≠ (s.contact h).name
    · obtain ⟨⟨fault, hfails⟩, hne⟩ := id hvain
      rw [hnamed.takeIn_in_vain_iff hp hfails hne, affairs_unfiled_iff]
      exact ⟨fun hnone _ => hnone, fun himp => himp hvain⟩
    · exact iff_of_true (hnamed.takeIn hp htitle hvain) fun h => absurd h hvain

/-! ### Runs -/

theorem sparing_after (h : Handle) (s : Newsroom) (visits : List Visit) :
    ∃ feeds, Sparing [h] feeds s (after h s visits) := by
  induction visits using List.reverseRecOn with
  | nil => exact ⟨[], .refl [h] s⟩
  | append_singleton past v ih =>
    obtain ⟨feeds, hpast⟩ := ih
    rw [after_append]
    exact ⟨_, hpast.trans (sparing_check (List.mem_singleton_self h) v.world v.onRequest _)⟩

/-- In every run of looks at the feed of a contact, with whatever comes of the fetches and whoever
listens, what was told leads at each point from its first name to the one it has then if, and only
if, no look slips over a rename; and what is on file bears its name at each point, as it did at the
beginning, if and only if no look slips over one while there is something on file. -/
theorem renames_told_and_filed_unless_slipped {visits : List Visit}
    (htitled : ∀ v ∈ visits, v.Titled (s.contact h).address) :
    ((∀ past rest, visits = past ++ rest → Told h s (after h s past)) ↔
      ∀ past v rest, visits = past ++ v :: rest → ¬ Slips h (after h s past) v) ∧
    ((s.contact h).persistent = true → s.roster.count h ≤ 1 → NamedOnFile h s →
      ((∀ past rest, visits = past ++ rest → NamedOnFile h (after h s past)) ↔
        ∀ past v rest, visits = past ++ v :: rest → Slips h (after h s past) v →
          ¬ OnFile h (after h s past))) := by
  have hthere {past rest : List Visit} {v : Visit} (hsplit : visits = past ++ v :: rest) :
      v.Titled ((after h s past).contact h).address := by
    obtain ⟨_, hspared⟩ := sparing_after h s past
    rw [hspared.address h]
    exact htitled v (hsplit ▸ List.mem_append_right _ List.mem_cons_self)
  constructor
  · refine prefix_iff (.refl h s) fun past v rest hsplit htold => ?_
    rw [after_append]
    exact told_look_iff (hthere hsplit) htold
  · intro hp honce hfiled
    have hnamed (past : List Visit) :
        ((after h s past).affairs h).Named ↔ NamedOnFile h (after h s past) := by
      obtain ⟨_, hspared⟩ := sparing_after h s past
      have hcount := Nat.le_trans (hspared.roster.count_le h) honce
      exact affairs_named_iff.trans (and_iff_right hcount)
    refine prefix_iff hfiled fun past v rest hsplit hbefore => ?_
    obtain ⟨_, hspared⟩ := sparing_after h s past
    have hpersistent : ((after h s past).contact h).persistent = true :=
      (congrArg (·.2.1) (hspared.identity h)).trans hp
    rw [← hnamed, after_append]
    exact named_look_iff (hthere hsplit) hpersistent ((hnamed past).mpr hbefore)

def subscribed : Newsroom :=
  blank.pass ⟨.showing (Feed.bare []), .subscribe (some "a") (.text "News")⟩

def visitTo (title : String) (items : List Item) : Visit :=
  ⟨.showing ⟨.text title, items, []⟩, false⟩

theorem titled_visitTo (title : String) (items : List Item) (address : Option String) :
    (visitTo title items).Titled address := by
  rintro _ ⟨⟩
  exact ⟨title, rfl⟩

theorem named_subscribed : NamedOnFile 0 subscribed := by
  intro store hstore
  cases hstore
  refine ⟨fun row hrow _ => ?_, fun _ => rfl⟩
  obtain rfl := List.mem_singleton.mp hrow
  rfl

/-- Two renames are told, the second by a look without news, and the last name is on file. -/
theorem two_renames_told_and_filed :
    let visits := [visitTo "New" [.bare "x"], visitTo "Newer" []]
    Told 0 subscribed (after 0 subscribed visits) ∧
      NamedOnFile 0 (after 0 subscribed visits) := by
  intro visits
  have htitled : ∀ v ∈ visits, v.Titled (subscribed.contact 0).address := by
    intro v hv
    simp only [visits, List.mem_cons, List.not_mem_nil, or_false] at hv
    obtain rfl | rfl := hv
    · exact titled_visitTo _ _ _
    · exact titled_visitTo _ _ _
  have hnone : ∀ past v rest, visits = past ++ v :: rest →
      ¬ Slips 0 (after 0 subscribed past) v := by
    rintro past v rest hsplit ⟨feed, hfetch, _, _, hrefused⟩
    simp only [visits] at hsplit
    rcases past with _ | ⟨first, _ | ⟨second, past⟩⟩
    · cases hsplit
      cases hfetch
      exact hrefused _ rfl fun store hstore _ => by cases hstore; exact ⟨_, rfl⟩
    · cases hsplit
      cases hfetch
      exact hrefused _ rfl fun store hstore _ => by cases hstore; exact ⟨_, rfl⟩
    · have hlength := congrArg List.length hsplit
      simp only [List.cons_append, List.length_cons, List.length_append, List.length_nil] at hlength
      omega
  obtain ⟨htold, hfiled⟩ := renames_told_and_filed_unless_slipped htitled
  have hnamed := hfiled rfl (by decide) named_subscribed
  exact ⟨htold.mpr hnone visits [] rfl,
    hnamed.mpr (fun past v rest hsplit hslips => absurd hslips (hnone past v rest hsplit))
      visits [] rfl⟩

/-- It is not so that no rename is lost: a look fails because the title of an item is null, the next
one finds nothing new, and nobody has heard of the name that the contact bears since the first. -/
theorem rename_not_told_after_failed_look :
    ¬ ∀ (s : Newsroom) (h : Handle) (visits : List Visit), (∀ v ∈ visits, v.world.Quiet) →
      (∀ v ∈ visits, v.Titled (s.contact h).address) → Told h s (after h s visits) := by
  intro hall
  let untitled : Item := ⟨some (.text "x"), some .null, some .null, some .null, some none⟩
  let visits := [visitTo "New" [untitled], visitTo "New" []]
  obtain ⟨told, htold, hleads⟩ := hall subscribed 0 visits
    (List.forall_mem_cons.mpr ⟨Outside.quiet_showing _,
      List.forall_mem_singleton.mpr (Outside.quiet_showing _)⟩)
    (List.forall_mem_cons.mpr ⟨titled_visitTo _ _ _,
      List.forall_mem_singleton.mpr (titled_visitTo _ _ _)⟩)
  have hnothing : (after 0 subscribed visits).renames 0 = [] := rfl
  have hfirst : subscribed.renames 0 = [] := rfl
  rw [hnothing, hfirst, List.nil_append] at htold
  subst htold
  have hname : Value.text "New" = .text "News" := hleads
  exact absurd (Value.text.inj hname) (by decide)

end Newsroom

end Newswire

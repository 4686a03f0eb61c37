import Newswire.Proofs.Delivery.Runs

/-!
Exactly once, with dates. The marker is the latest of all dates that a contact ever met, whatever
the feed showed meanwhile and in whatever order; so what a look selects by the marker alone is what
is later than every single date before it.
-/

namespace Newswire

/-! ### The latest date so far -/

/-- What is remembered of some dates: the latest of them, or nothing when there are none. -/
def Marker.Remembers (dates : List Moment) : Option Marker → Prop
  | none => dates = []
  | some (.date last) => last ∈ dates ∧ ∀ a ∈ dates, a.instant ≤ last.instant
  | some (.token _) => False

theorem Marker.Remembers.exists_later {dates later : List Moment} {marker : Option Marker}
    {date : Moment} (hdate : date ∈ dates) (hsub : dates ⊆ later)
    (hm : Marker.Remembers later marker) :
    ∃ last, marker = some (.date last) ∧ date.instant ≤ last.instant := by
  match marker, hm with
  | none, hm =>
    have hnil : later = [] := hm
    exact absurd (hsub hdate) (hnil ▸ List.not_mem_nil)
  | some (.date last), hm => exact ⟨last, rfl, hm.2 date (hsub hdate)⟩
  | some (.token _), hm => exact hm.elim

namespace Feed

/-- All items bear dates that know their offset, and can be shown. -/
structure Chronicle (feed : Feed) : Prop where
  dated : ∀ item ∈ feed.items, ∃ date, item.published = some (some date) ∧
    date.offset.isSome = true
  renders : ∀ item ∈ feed.items, item.Renders

/-- The items that are later than each of some dates. -/
def unseen (feed : Feed) (dates : List Moment) : List Item :=
  feed.items.filter fun item => dates.all (Item.isLaterThan · item)

variable {feed : Feed} {dates : List Moment} {marker : Option Marker}

theorem Chronicle.date?_eq (hf : feed.Chronicle) {item : Item} (hi : item ∈ feed.items) :
    ∃ date, item.date? = some date ∧ date.offset.isSome = true := by
  obtain ⟨date, hdate, haware⟩ := hf.dated item hi
  exact ⟨date, Option.join_eq_some_iff.mpr hdate, haware⟩

theorem Chronicle.isDated (hf : feed.Chronicle) : feed.Dated := by
  intro item hi
  obtain ⟨date, hdate, _⟩ := hf.date?_eq hi
  rw [hdate]
  rfl

theorem Chronicle.aware (hf : feed.Chronicle) : ∀ a ∈ feed.moments, a.offset.isSome = true := by
  intro a ha
  obtain ⟨item, hi, hdate⟩ := List.mem_filterMap.mp ha
  obtain ⟨date, hdate', haware⟩ := hf.date?_eq hi
  cases hdate.symm.trans hdate'
  exact haware

theorem Chronicle.sound (hf : feed.Chronicle) (hm : Marker.Remembers dates marker)
    (haware : ∀ a ∈ dates, a.offset.isSome = true) : feed.Sound marker := by
  refine ⟨.of_aware ?_ (fun hd => absurd hf.isDated hd) hf.aware ?_ ?_, hf.renders⟩
  · intro item hi
    obtain ⟨date, hdate, _⟩ := hf.dated item hi
    rw [hdate]
    rfl
  · rintro date rfl
    exact haware date hm.1
  · rintro token rfl
    exact hm.elim

/-- What is later than the latest date is what is later than each of them. -/
theorem Chronicle.selection_eq (hf : feed.Chronicle) (hm : Marker.Remembers dates marker) :
    feed.selection marker = feed.unseen dates := by
  match marker, hm with
  | none, hm =>
    have hnil : dates = [] := hm
    rw [hnil]
    exact (List.filter_eq_self.mpr fun _ _ => rfl).symm
  | some (.date date), ⟨hmem, hmax⟩ =>
    rw [selection, if_pos hf.isDated]
    refine List.filter_congr fun item _ => Bool.eq_iff_iff.mpr ?_
    rw [List.all_eq_true, Item.isLaterThan_iff]
    constructor
    · rintro ⟨own, hown, hlt⟩ a ha
      have := hmax a ha
      exact Item.isLaterThan_iff.mpr ⟨own, hown, by omega⟩
    · exact fun h => Item.isLaterThan_iff.mp (h date hmem)

theorem Chronicle.unseen_ne_nil_iff (hf : feed.Chronicle) (hm : Marker.Remembers dates marker) :
    feed.unseen dates ≠ [] ↔
      ∃ a ∈ feed.moments, ∀ date, marker = some (.date date) → date.instant < a.instant := by
  rw [← hf.selection_eq hm]
  match marker, hm with
  | none, _ =>
    constructor
    · intro hne
      obtain ⟨item, hi⟩ := List.exists_mem_of_ne_nil _ hne
      obtain ⟨date, hdate, _⟩ := hf.date?_eq hi
      exact ⟨date, List.mem_filterMap.mpr ⟨item, hi, hdate⟩, fun _ h => nomatch h⟩
    · rintro ⟨a, ha, _⟩
      obtain ⟨item, hi, _⟩ := List.mem_filterMap.mp ha
      exact List.ne_nil_of_mem hi
  | some (.date last), _ =>
    rw [selection_date_ne_nil_iff hf.isDated]
    constructor
    · rintro ⟨a, ha, hlt⟩
      exact ⟨a, ha, fun _ h => by cases h; exact hlt⟩
    · rintro ⟨a, ha, h⟩
      exact ⟨a, ha, h last rfl⟩
  | some (.token _), hm => exact hm.elim

theorem Chronicle.remembers_newest (hf : feed.Chronicle) (hne : feed.unseen dates ≠ [])
    {newest : Marker} (hnewest : feed.Newest (some newest)) :
    Marker.Remembers (dates ++ feed.moments) (some newest) := by
  cases newest with
  | token token => exact absurd hf.isDated hnewest.1
  | date date =>
    obtain ⟨_, hdate, hmax⟩ := hnewest
    obtain ⟨item, hitem⟩ := List.exists_mem_of_ne_nil _ hne
    obtain ⟨hmem, hlater⟩ := List.mem_filter.mp hitem
    refine ⟨List.mem_append_right _ hdate, fun a ha => ?_⟩
    rcases List.mem_append.mp ha with ha | ha
    · obtain ⟨own, hown, hlt⟩ := Item.isLaterThan_iff.mp (List.all_eq_true.mp hlater a ha)
      have := hmax own (List.mem_filterMap.mpr ⟨item, hmem, hown⟩)
      omega
    · exact hmax a ha

theorem Chronicle.remembers_same (hf : feed.Chronicle) (hm : Marker.Remembers dates marker)
    (hnil : feed.unseen dates = []) : Marker.Remembers (dates ++ feed.moments) marker := by
  have hnone := not_not_intro hnil
  rw [← ne_eq, hf.unseen_ne_nil_iff hm] at hnone
  match marker, hm with
  | none, hm =>
    have hdates : dates = [] := hm
    have hmoments : feed.moments = [] := List.eq_nil_iff_forall_not_mem.mpr fun a ha =>
      hnone ⟨a, ha, fun _ h => nomatch h⟩
    rw [hdates, hmoments]
    rfl
  | some (.date last), hm =>
    refine ⟨List.mem_append_left _ hm.1, fun a ha => ?_⟩
    rcases List.mem_append.mp ha with ha | ha
    · exact hm.2 a ha
    · have hle : ¬ last.instant < a.instant := fun hlt =>
        hnone ⟨a, ha, fun _ h => by cases h; exact hlt⟩
      omega
  | some (.token _), hm => exact hm.elim

theorem Chronicle.remembers (hf : feed.Chronicle) (hm : Marker.Remembers dates marker)
    {fresh : Option Marker} (hfresh : fresh.isSome = !(feed.selection marker).isEmpty)
    (hnewest : ∀ m, fresh = some m → feed.Newest (some m)) :
    Marker.Remembers (dates ++ feed.moments) (fresh.or marker) := by
  rw [hf.selection_eq hm] at hfresh
  have hiff := fresh_eq_none_iff hfresh
  cases fresh with
  | none => exact hf.remembers_same hm (hiff.mp rfl)
  | some newest =>
    exact hf.remembers_newest (fun hnil => nomatch hiff.mpr hnil) (hnewest newest rfl)

end Feed

/-! ### Runs -/

namespace Newsroom

def Visit.feed? (v : Visit) (address : Option String) : Option Feed :=
  (v.world.fetch address).toOption

/-- The dates that were met: the one that a contact began with and all those that were shown. -/
def met (start : Option Moment) (address : Option String) (past : List Visit) : List Moment :=
  start.toList ++ (past.filterMap (Visit.feed? · address)).flatMap Feed.moments

/-- The items that a look delivers: those later than all dates that were met before. -/
def Visit.batch (v : Visit) (start : Option Moment) (address : Option String)
    (past : List Visit) : List Item :=
  match v.feed? address with
  | none => []
  | some feed => feed.unseen (met start address past)

/-- A look delivers its batch, or nothing when the feed cannot be had. -/
def Visit.Delivers (v : Visit) (h : Handle) (s : Newsroom) (start : Option Moment)
    (address : Option String) (past : List Visit) : Prop :=
  match v.feed? address with
  | none => Misses h s v
  | some feed => Brings h s v (v.batch start address past) ∧
      (v.batch start address past ≠ [] ↔ ∃ a ∈ feed.moments, ∀ date,
        (s.contact h).marker = some (.date date) → date.instant < a.instant)

/-- The marker of the contact is the latest of the dates that were met. -/
def Current (h : Handle) (start : Option Moment) (address : Option String) (past : List Visit)
    (s : Newsroom) : Prop :=
  (s.contact h).address = address ∧ Marker.Remembers (met start address past) (s.contact h).marker

/-- A run during which all items of the feed bear dates and nothing fails but the getting of the
feed. -/
structure Season (h : Handle) (s : Newsroom) (start : Option Moment) (visits : List Visit) :
    Prop where
  begins : (s.contact h).marker = start.map .date
  aware : ∀ date, start = some date → date.offset.isSome = true
  chronicle : ∀ v ∈ visits, ∀ feed, v.feed? (s.contact h).address = some feed → feed.Chronicle
  undisturbed : Undisturbed h s visits

variable {h : Handle} {s : Newsroom} {start : Option Moment} {address : Option String}
  {past rest visits : List Visit} {v : Visit}

theorem Visit.fetch_of_feed? {feed : Feed} (hv : v.feed? address = some feed) :
    v.world.fetch address = .ok feed := by
  rw [Visit.feed?] at hv
  cases hf : v.world.fetch address with
  | error fault =>
    rw [hf] at hv
    cases hv
  | ok found =>
    rw [hf] at hv
    cases hv
    rfl

theorem Visit.exists_fault (hv : v.feed? address = none) :
    ∃ fault, v.world.fetch address = .error fault := by
  rw [Visit.feed?] at hv
  cases hf : v.world.fetch address with
  | error fault => exact ⟨fault, rfl⟩
  | ok found =>
    rw [hf] at hv
    cases hv

theorem met_append (start : Option Moment) (address : Option String) (past : List Visit)
    (v : Visit) : met start address (past ++ [v])
      = met start address past ++ ((v.feed? address).map Feed.moments).getD [] := by
  rw [met, List.filterMap_append, List.flatMap_append, ← List.append_assoc]
  refine congrArg (met start address past ++ ·) ?_
  cases hv : v.feed? address with
  | none =>
    simp only [List.filterMap_cons, List.filterMap_nil, hv]
    rfl
  | some feed =>
    simp only [List.filterMap_cons, List.filterMap_nil, hv, List.flatMap_singleton]
    rfl

/-- A look delivers what is later than all dates before it, and keeps the contact current. -/
theorem Current.look (hcurrent : Current h start address past s)
    (haware : ∀ a ∈ met start address past, a.offset.isSome = true)
    (hv : ∀ feed, v.feed? address = some feed → feed.Chronicle)
    (hu : ∀ feed, v.world.fetch (s.contact h).address = .ok feed → Untroubled v.world s h feed) :
    v.Delivers h s start address past ∧
      Current h start address (past ++ [v]) (Newsroom.look h s v).2 := by
  obtain ⟨haddress, hmarker⟩ := hcurrent
  rw [Visit.Delivers, Visit.batch, Current, met_append]
  cases hfeed : v.feed? address with
  | none =>
    obtain ⟨fault, hfetch⟩ := Visit.exists_fault hfeed
    rw [← haddress] at hfetch
    obtain ⟨hmisses, haddress', hmarker'⟩ := look_of_fault hfetch
    refine ⟨hmisses, haddress'.trans haddress, ?_⟩
    rw [hmarker', Option.map_none, Option.getD_none, List.append_nil]
    exact hmarker
  | some feed =>
    have hfetch := Visit.fetch_of_feed? hfeed
    rw [← haddress] at hfetch
    have hchronicle := hv feed hfeed
    obtain ⟨hbrings, fresh, hcontact, hfresh, hnewest⟩ :=
      look_of_sound hfetch (hchronicle.sound hmarker haware) (hu feed hfetch)
    refine ⟨⟨?_, hchronicle.unseen_ne_nil_iff hmarker⟩, ?_, ?_⟩
    · rw [hchronicle.selection_eq hmarker] at hbrings
      exact hbrings
    · rw [hcontact]
      exact haddress
    · rw [hcontact]
      exact hchronicle.remembers hmarker hfresh hnewest

theorem Season.aware_met (hs : Season h s start visits) (hsplit : visits = past ++ rest) :
    ∀ a ∈ met start (s.contact h).address past, a.offset.isSome = true := by
  intro a ha
  rcases List.mem_append.mp ha with ha | ha
  · exact hs.aware a (Option.mem_toList.mp ha)
  · obtain ⟨feed, hfeed, ha⟩ := List.mem_flatMap.mp ha
    obtain ⟨v, hv, hfeed⟩ := List.mem_filterMap.mp hfeed
    have hmem : v ∈ visits := hsplit ▸ List.mem_append_left rest hv
    exact (hs.chronicle v hmem feed hfeed).aware a ha

theorem Season.step (hs : Season h s start visits) (hsplit : visits = past ++ v :: rest)
    (hcurrent : Current h start (s.contact h).address past (after h s past)) :
    v.Delivers h (after h s past) start (s.contact h).address past ∧
      Current h start (s.contact h).address (past ++ [v]) (after h s (past ++ [v])) := by
  have hmem : v ∈ visits := hsplit ▸ List.mem_append_right past (List.mem_cons_self ..)
  rw [after_append]
  exact hcurrent.look (hs.aware_met hsplit) (hs.chronicle v hmem) (hs.undisturbed past v rest hsplit)

/-- The marker is always the latest of the dates that were met. -/
theorem Season.current (hs : Season h s start visits) (hsplit : visits = past ++ rest) :
    Current h start (s.contact h).address past (after h s past) := by
  refine prefix_induction (P := fun past => Current h start _ past (after h s past)) ⟨rfl, ?_⟩
    (fun _ _ _ hsplit ih => (hs.step hsplit ih).2) past rest hsplit
  show Marker.Remembers (met start _ []) (s.contact h).marker
  rw [hs.begins]
  cases start with
  | none => rfl
  | some date =>
    refine ⟨List.mem_singleton_self date, fun a ha => ?_⟩
    cases List.mem_singleton.mp ha
    exact Int.le_refl _

theorem met_subset (start : Option Moment) (address : Option String) (past more : List Visit) :
    met start address past ⊆ met start address (past ++ more) := by
  rw [met, met, List.filterMap_append, List.flatMap_append, ← List.append_assoc]
  exact List.subset_append_left _ _

theorem mem_batch_iff {item : Item} :
    item ∈ v.batch start address past ↔ ∃ feed, v.feed? address = some feed ∧ item ∈ feed.items ∧
      ∀ a ∈ met start address past, ∃ own, item.date? = some own ∧ a.instant < own.instant := by
  rw [Visit.batch]
  cases v.feed? address with
  | none => exact ⟨(nomatch ·), fun ⟨_, hfeed, _⟩ => nomatch hfeed⟩
  | some feed =>
    simp only [Feed.unseen, List.mem_filter, List.all_eq_true, Item.isLaterThan_iff]
    exact ⟨fun h => ⟨feed, rfl, h⟩, fun ⟨_, hfeed, h⟩ => by cases hfeed; exact h⟩

theorem lt_of_mem_batch {mid : List Visit} {w : Visit} {item other : Item} {a b : Moment}
    (hitem : item ∈ v.batch start address past) (ha : item.date? = some a)
    (hother : other ∈ w.batch start address (past ++ v :: mid)) (hb : other.date? = some b) :
    a.instant < b.instant := by
  obtain ⟨feed, hfeed, hmem, _⟩ := mem_batch_iff.mp hitem
  obtain ⟨_, _, _, hlater⟩ := mem_batch_iff.mp hother
  have hshown : a ∈ ((past ++ v :: mid).filterMap (Visit.feed? · address)).flatMap Feed.moments :=
    List.mem_flatMap.mpr ⟨feed, List.mem_filterMap.mpr
      ⟨v, List.mem_append_right past (List.mem_cons_self ..), hfeed⟩,
      List.mem_filterMap.mpr ⟨item, hmem, ha⟩⟩
  obtain ⟨own, hown, hlt⟩ := hlater a (List.mem_append_right _ hshown)
  cases hown.symm.trans hb
  exact hlt

/-- Over a run in which all items bear dates, the marker is always the latest date that was met, so
it never moves back. Each look delivers the items later than every date before it, and reports news
exactly when there is a date after the marker; so no date is delivered twice. -/
theorem dated_exactly_once (hs : Season h s start visits) :
    (∀ past rest, visits = past ++ rest →
      Marker.Remembers (met start (s.contact h).address past) ((after h s past).contact h).marker) ∧
    (∀ past more rest, visits = past ++ (more ++ rest) → ∀ date,
      ((after h s past).contact h).marker = some (.date date) →
      ∃ last, ((after h s (past ++ more)).contact h).marker = some (.date last) ∧
        date.instant ≤ last.instant) ∧
    (∀ past v rest, visits = past ++ v :: rest →
      v.Delivers h (after h s past) start (s.contact h).address past) ∧
    ∀ past v mid w rest, visits = past ++ v :: (mid ++ w :: rest) →
      ∀ item ∈ v.batch start (s.contact h).address past,
      ∀ other ∈ w.batch start (s.contact h).address (past ++ v :: mid),
      ∀ a b, item.date? = some a → other.date? = some b → a.instant < b.instant := by
  refine ⟨fun _ _ hsplit => (hs.current hsplit).2, ?_, ?_, ?_⟩
  · intro past more rest hsplit date hdate
    have hbefore := (hs.current hsplit).2
    rw [hdate] at hbefore
    have hafter := (hs.current (hsplit.trans (List.append_assoc ..).symm)).2
    exact hafter.exists_later hbefore.1 (met_subset _ _ _ _)
  · exact fun past v rest hsplit => (hs.step hsplit (hs.current hsplit)).1
  · exact fun _ _ _ _ _ _ _ hitem _ hother _ _ ha hb => lt_of_mem_batch hitem ha hother hb

/-- An item of an hour of a day, as it is counted in a zone that lies some hours to the east. -/
def hourly (hour : Fin 24) (east : Fin 12) : Item where
  guid := none
  title := some (.text "Hourly")
  link := none
  summary := none
  published := some (some ⟨⟨2024, 2, 29, by decide⟩, ⟨hour, 0, 0, 0, by omega⟩,
    some ⟨east * 3600000000, by omega⟩⟩)

def hourlyVisit (items : List (Fin 24 × Fin 12)) : Visit :=
  ⟨.showing ⟨.text "Hours", items.map fun p => hourly p.1 p.2, []⟩, false⟩

theorem chronicle_hourlyVisit {items : List (Fin 24 × Fin 12)} {feed : Feed}
    (hf : (hourlyVisit items).feed? address = some feed) : feed.Chronicle := by
  cases hf
  refine ⟨fun item hi => ?_, fun item hi => ?_⟩
  · obtain ⟨p, _, rfl⟩ := List.mem_map.mp hi
    exact ⟨_, rfl, rfl⟩
  · obtain ⟨p, _, rfl⟩ := List.mem_map.mp hi
    exact ⟨_, rfl⟩

/-- Noon here is ten o'clock two hours to the west, and five o'clock is past long ago. -/
theorem delivers_later_hour :
    Brings 0 (after 0 bare [hourlyVisit [(12, 2)]]) (hourlyVisit [(5, 0), (11, 0), (12, 2)])
      [hourly 11 0] := by
  have hseason : Season 0 bare none [hourlyVisit [(12, 2)], hourlyVisit [(5, 0), (11, 0), (12, 2)]] := by
    constructor
    · rfl
    · exact fun _ h => nomatch h
    · refine List.forall_mem_cons.mpr ⟨fun _ => chronicle_hourlyVisit, ?_⟩
      exact List.forall_mem_singleton.mpr fun _ => chronicle_hourlyVisit
    · refine .cons (fun _ _ => .of_no_store (Outside.quiet_showing _) rfl _ _) ?_
      refine .cons (fun _ _ => .of_no_store (Outside.quiet_showing _) rfl _ _) ?_
      exact undisturbed_nil _ _
  exact ((dated_exactly_once hseason).2.2.1 [_] _ [] rfl).1

end Newsroom

end Newswire

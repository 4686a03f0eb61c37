import Newswire.Feed.News
import Newswire.Proofs.Rendering

/-!
What is new in a feed. On a feed that is fit to be read, the items newer than a marker can be told
in one line: those with a later date, those before the one with the token, or all when the marker
says nothing about the feed. The marker of the newest item is newer than the marker at hand exactly
when there is such an item, and no item is newer than it.
-/

namespace Newswire

def Item.date? (item : Item) : Option Moment :=
  item.published.join

/-- The item has a date after `date`. -/
def Item.isLaterThan (date : Moment) (item : Item) : Bool :=
  item.date?.any fun own => date.instant < own.instant

theorem Item.isLaterThan_iff {date : Moment} {item : Item} :
    item.isLaterThan date = true ↔ ∃ own, item.date? = some own ∧ date.instant < own.instant := by
  simp only [isLaterThan, Option.any_eq_true, decide_eq_true_eq]

/-- The item has the token, but for the case of its letters. -/
def Item.isNamed (token : Value) (item : Item) : Bool :=
  match token, item.guid with
  | .text text, some (.text guid) => Text.lower text == Text.lower guid
  | _, _ => false

namespace Feed

def Dated (feed : Feed) : Prop :=
  ∀ item ∈ feed.items, item.date?.isSome = true

instance (feed : Feed) : Decidable feed.Dated :=
  inferInstanceAs (Decidable (∀ item ∈ feed.items, _))

def moments (feed : Feed) : List Moment :=
  feed.items.filterMap Item.date?

/-- The items newer than a marker. -/
def selection (feed : Feed) : Option Marker → List Item
  | none => feed.items
  | some (.date date) =>
    if feed.Dated then feed.items.filter (Item.isLaterThan date) else feed.items
  | some (.token token) =>
    if feed.Dated then feed.items else feed.items.takeWhile (!Item.isNamed token ·)

/-- The items of the feed can be set against the marker of someone, whether or not they can be
shown: they say what is asked of them, and their dates can be compared. -/
structure Legible (feed : Feed) (seen : Option Marker) : Prop where
  published : ∀ item ∈ feed.items, item.published.isSome = true
  guids : ¬ feed.Dated → ∀ item ∈ feed.items, ∃ guid, item.guid = some (.text guid)
  comparable : feed.Dated → ∀ a ∈ feed.moments, ∀ b ∈ feed.moments, Moment.Comparable a b
  seenDate : feed.Dated → ∀ date, seen = some (.date date) →
    ∀ a ∈ feed.moments, Moment.Comparable a date
  seenToken : ¬ feed.Dated → ∀ token, seen = some (.token token) → ∃ text, token = .text text

/-- The feed is fit to be read by someone with a marker: its items can be shown as well. -/
structure Sound (feed : Feed) (seen : Option Marker) : Prop extends Legible feed seen where
  renders : ∀ item ∈ feed.items, item.Renders

/-- The marker is the one of the feed's newest item. -/
def Newest (feed : Feed) : Option Marker → Prop
  | none => feed.items = []
  | some (.date date) => feed.Dated ∧ date ∈ feed.moments ∧
      ∀ a ∈ feed.moments, a.instant ≤ date.instant
  | some (.token token) => ¬ feed.Dated ∧ (∃ text, token = .text text) ∧
      ∃ first rest, feed.items = first :: rest ∧ first.guid = some token

theorem selection_subset (feed : Feed) (seen : Option Marker) :
    feed.selection seen ⊆ feed.items := by
  rcases seen with _ | ⟨date⟩ | ⟨token⟩
  · exact fun _ h => h
  · rw [selection]
    split
    · exact (List.filter_sublist).subset
    · exact fun _ h => h
  · rw [selection]
    split
    · exact fun _ h => h
    · exact (List.takeWhile_sublist _).subset

theorem Legible.of_aware {feed : Feed} {seen : Option Marker}
    (published : ∀ item ∈ feed.items, item.published.isSome = true)
    (guids : ¬ feed.Dated → ∀ item ∈ feed.items, ∃ guid, item.guid = some (.text guid))
    (aware : ∀ a ∈ feed.moments, a.offset.isSome = true)
    (seenDate : ∀ date, seen = some (.date date) → date.offset.isSome = true)
    (seenToken : ∀ token, seen = some (.token token) → ∃ text, token = .text text) :
    feed.Legible seen where
  published := published
  guids := guids
  comparable := fun _ a ha b hb => (aware a ha).trans (aware b hb).symm
  seenDate := fun _ date hdate a ha => (aware a ha).trans (seenDate date hdate).symm
  seenToken := fun _ => seenToken

def bare (names : List String) : Feed :=
  ⟨.text "Names", names.map .bare, []⟩

theorem sound_bare (names : List String) {seen : Option Marker}
    (seenToken : ∀ token, seen = some (.token token) → ∃ text, token = .text text) :
    (bare names).Sound seen := by
  have hitem : ∀ item ∈ (bare names).items, ∃ name, item = .bare name := fun item hi => by
    obtain ⟨name, _, hname⟩ := List.mem_map.mp hi
    exact ⟨name, hname.symm⟩
  have hmoments : (bare names).moments = [] := List.filterMap_eq_nil_iff.mpr fun item hi => by
    obtain ⟨_, rfl⟩ := hitem item hi
    rfl
  refine ⟨⟨fun item hi => ?_, fun _ item hi => ?_, fun _ a ha => ?_, fun _ _ _ a ha => ?_,
    fun _ => seenToken⟩, fun item hi => ?_⟩
  · obtain ⟨_, rfl⟩ := hitem item hi
    rfl
  · obtain ⟨_, rfl⟩ := hitem item hi
    exact ⟨_, rfl⟩
  · rw [hmoments] at ha
    cases ha
  · rw [hmoments] at ha
    cases ha
  · obtain ⟨_, rfl⟩ := hitem item hi
    exact Item.renders_bare _

/-! ### Dates -/

theorem dates?_of_dated {items : List Item} (h : ∀ item ∈ items, item.date?.isSome = true) :
    dates? items = .ok (some (items.filterMap Item.date?)) := by
  induction items with
  | nil => rfl
  | cons item rest ih =>
    have hrest := ih fun i hi => h i (List.mem_cons_of_mem _ hi)
    obtain ⟨date, hdate⟩ := Option.isSome_iff_exists.mp (h item (List.mem_cons_self ..))
    have hpublished : item.published = some (some date) := Option.join_eq_some_iff.mp hdate
    rw [dates?, hpublished, hrest, List.filterMap_cons_some hdate]
    rfl

theorem dates?_of_not_dated {items : List Item}
    (hpublished : ∀ item ∈ items, item.published.isSome = true)
    (h : ¬ ∀ item ∈ items, item.date?.isSome = true) : dates? items = .ok none := by
  induction items with
  | nil => exact absurd (fun _ hi => nomatch hi) h
  | cons item rest ih =>
    obtain ⟨date, hdate⟩ :=
      Option.isSome_iff_exists.mp (hpublished item (List.mem_cons_self ..))
    cases date with
    | none =>
      rw [dates?, hdate]
      rfl
    | some date =>
      have hitem : item.date?.isSome = true := by
        rw [Item.date?, hdate]
        rfl
      have hrest : ¬ ∀ i ∈ rest, i.date?.isSome = true := fun hr =>
        h (List.forall_mem_cons.mpr ⟨hitem, hr⟩)
      have hih := ih (fun i hi => hpublished i (List.mem_cons_of_mem _ hi)) hrest
      rw [dates?, hdate, hih]
      rfl

theorem later?_of_comparable {a b : Moment} (h : Moment.Comparable a b) :
    a.later? b = .ok (decide (b.instant < a.instant)) :=
  if_pos h

theorem latest_cons {best date : Moment} (h : Moment.Comparable date best) (rest : List Moment) :
    latest best (date :: rest)
      = latest (if best.instant < date.instant then date else best) rest := by
  rw [latest, later?_of_comparable h]
  by_cases hlt : best.instant < date.instant
  · rw [decide_eq_true hlt, if_pos hlt]
    rfl
  · rw [decide_eq_false hlt, if_neg hlt]
    rfl

theorem exists_latest {best : Moment} {dates : List Moment}
    (h : ∀ a ∈ best :: dates, ∀ b ∈ best :: dates, Moment.Comparable a b) :
    ∃ date, latest best dates = .ok date ∧ date ∈ best :: dates ∧
      ∀ a ∈ best :: dates, a.instant ≤ date.instant := by
  induction dates generalizing best with
  | nil =>
    refine ⟨best, rfl, List.mem_cons_self .., fun a ha => ?_⟩
    cases List.mem_singleton.mp ha
    exact Int.le_refl _
  | cons date rest ih =>
    have hbest : best ∈ best :: date :: rest := List.mem_cons_self ..
    have hdate : date ∈ best :: date :: rest := List.mem_cons_of_mem _ (List.mem_cons_self ..)
    generalize hw : (if best.instant < date.instant then date else best) = winner
    have hwinner : winner ∈ best :: date :: rest := by
      subst hw
      split
      · exact hdate
      · exact hbest
    have hle : best.instant ≤ winner.instant ∧ date.instant ≤ winner.instant := by
      subst hw
      split <;> omega
    have hsub : ∀ a ∈ winner :: rest, a ∈ best :: date :: rest :=
      List.forall_mem_cons.mpr ⟨hwinner, fun a ha =>
        List.mem_cons_of_mem _ (List.mem_cons_of_mem _ ha)⟩
    obtain ⟨top, htop, hmem, hmax⟩ := ih fun a ha b hb => h a (hsub a ha) b (hsub b hb)
    have hmaxw := hmax winner (List.mem_cons_self ..)
    refine ⟨top, ?_, hsub top hmem, ?_⟩
    · rw [latest_cons (h date hdate best hbest), hw, htop]
    · refine List.forall_mem_cons.mpr ⟨by omega, List.forall_mem_cons.mpr ⟨by omega, ?_⟩⟩
      exact fun a ha => hmax a (List.mem_cons_of_mem _ ha)

/-! ### Selecting -/

theorem laterThan_eq {date : Moment} {items : List Item}
    (hdated : ∀ item ∈ items, item.date?.isSome = true)
    (hcomparable : ∀ a ∈ items.filterMap Item.date?, Moment.Comparable a date) :
    laterThan date (items.zip (items.filterMap Item.date?))
      = .ok (items.filter (Item.isLaterThan date)) := by
  induction items with
  | nil => rfl
  | cons item rest ih =>
    obtain ⟨own, hown⟩ := Option.isSome_iff_exists.mp (hdated item (List.mem_cons_self ..))
    rw [List.filterMap_cons_some hown] at hcomparable ⊢
    have hrest := ih (fun i hi => hdated i (List.mem_cons_of_mem _ hi))
      fun a ha => hcomparable a (List.mem_cons_of_mem _ ha)
    have hlater := later?_of_comparable (hcomparable own (List.mem_cons_self ..))
    have hitem : item.isLaterThan date = decide (date.instant < own.instant) := by
      rw [Item.isLaterThan, hown]
      rfl
    rw [List.zip_cons_cons, laterThan, hlater, hrest, List.filter_cons, hitem]
    rfl

theorem tokenMatches_text (a b : String) :
    Marker.tokenMatches (.text a) (.text b) = .ok (Text.lower a == Text.lower b) := rfl

theorem exists_before? (token : String) {items : List Item}
    (hguids : ∀ item ∈ items, ∃ guid, item.guid = some (.text guid)) :
    ∃ found, before? (.text token) items = .ok found ∧
      found.getD items = items.takeWhile (!Item.isNamed (.text token) ·) := by
  induction items with
  | nil => exact ⟨none, rfl, rfl⟩
  | cons item rest ih =>
    obtain ⟨found, hfound, hrest⟩ := ih fun i hi => hguids i (List.mem_cons_of_mem _ hi)
    obtain ⟨guid, hguid⟩ := hguids item (List.mem_cons_self ..)
    have hnamed : item.isNamed (.text token) = (Text.lower token == Text.lower guid) := by
      simp only [Item.isNamed, hguid]
    rw [before?, hguid]
    cases hmatch : Text.lower token == Text.lower guid with
    | true =>
      refine ⟨some [], ?_, ?_⟩
      · simp only [required, bind, Except.bind, tokenMatches_text, hmatch]
        rfl
      · rw [List.takeWhile_cons, hnamed, hmatch]
        rfl
    | false =>
      refine ⟨found.map (item :: ·), ?_, ?_⟩
      · simp only [required, bind, Except.bind, tokenMatches_text, hmatch, hfound]
        rfl
      · rw [List.takeWhile_cons, hnamed, hmatch, ← hrest]
        cases found <;> rfl

variable {feed : Feed} {seen : Option Marker}

theorem Legible.dates? (hs : feed.Legible seen) :
    Feed.dates? feed.items = .ok (if feed.Dated then some feed.moments else none) := by
  split
  · next hd => exact dates?_of_dated hd
  · next hd => exact dates?_of_not_dated hs.published hd

/-- The items that a feed gives as newer than a marker. -/
theorem Legible.since_eq (hs : feed.Legible seen) :
    feed.since seen = .ok (feed.selection seen) := by
  rw [since, hs.dates?]
  match seen, hs with
  | none, _ => split <;> rfl
  | some (.date date), hs =>
    rw [selection]
    split
    · next hd => exact laterThan_eq hd (hs.seenDate hd date rfl)
    · rfl
  | some (.token token), hs =>
    rw [selection]
    split
    · rfl
    · next hd =>
      obtain ⟨text, rfl⟩ := hs.seenToken hd token rfl
      obtain ⟨found, hfound, hitems⟩ := exists_before? text (hs.guids hd)
      simp only [bind, Except.bind, hfound, hitems, pure, Except.pure]

/-! ### The newest item -/

theorem Legible.exists_newest (hs : feed.Legible seen) :
    ∃ marker, feed.newest = .ok marker ∧ feed.Newest marker := by
  rw [newest, hs.dates?]
  cases hitems : feed.items with
  | nil => exact ⟨none, rfl, hitems⟩
  | cons first rest =>
    split
    · next hd =>
      cases hmoments : feed.moments with
      | nil =>
        obtain ⟨date, hdate⟩ :=
          Option.isSome_iff_exists.mp (hd first (hitems ▸ List.mem_cons_self ..))
        rw [moments, hitems, List.filterMap_cons_some hdate] at hmoments
        cases hmoments
      | cons best dates =>
        have hcomparable := hs.comparable hd
        rw [hmoments] at hcomparable
        obtain ⟨date, hlatest, hdate, hmax⟩ := exists_latest hcomparable
        refine ⟨some (.date date), ?_, hd, hmoments ▸ hdate, hmoments ▸ hmax⟩
        simp only [bind, Except.bind, hlatest]
        rfl
    · next hd =>
      obtain ⟨guid, hguid⟩ := hs.guids hd first (hitems ▸ List.mem_cons_self ..)
      refine ⟨some (.token (.text guid)), ?_, hd, ⟨guid, rfl⟩, first, rest, hitems, hguid⟩
      simp only [bind, Except.bind, hguid]
      rfl

theorem selection_date_ne_nil_iff {date : Moment} (hd : feed.Dated) :
    feed.selection (some (.date date)) ≠ [] ↔ ∃ a ∈ feed.moments, date.instant < a.instant := by
  rw [selection, if_pos hd]
  constructor
  · intro h
    obtain ⟨item, hselected⟩ := List.exists_mem_of_ne_nil _ h
    obtain ⟨hitem, hlater⟩ := List.mem_filter.mp hselected
    obtain ⟨own, hown, hlt⟩ := Item.isLaterThan_iff.mp hlater
    exact ⟨own, List.mem_filterMap.mpr ⟨item, hitem, hown⟩, hlt⟩
  · rintro ⟨own, hmem, hlt⟩
    obtain ⟨item, hitem, hown⟩ := List.mem_filterMap.mp hmem
    have hlater := Item.isLaterThan_iff.mpr ⟨own, hown, hlt⟩
    exact List.ne_nil_of_mem (List.mem_filter.mpr ⟨hitem, hlater⟩)

theorem Newest.items_ne_nil {marker : Marker} (hm : feed.Newest (some marker)) :
    feed.items ≠ [] := by
  cases marker with
  | date date =>
    obtain ⟨_, hdate, _⟩ := hm
    obtain ⟨item, hitem, _⟩ := List.mem_filterMap.mp hdate
    exact List.ne_nil_of_mem hitem
  | token token =>
    obtain ⟨_, _, first, rest, hitems, _⟩ := hm
    rw [hitems]
    exact List.cons_ne_nil first rest

theorem Legible.newerThan_eq (hs : feed.Legible seen) {marker : Marker}
    (hm : feed.Newest (some marker)) :
    marker.newerThan seen = .ok (!(feed.selection seen).isEmpty) := by
  have hall (h : feed.selection seen = feed.items) : true = !(feed.selection seen).isEmpty := by
    rw [h, List.isEmpty_eq_false_iff.mpr hm.items_ne_nil]
    rfl
  match seen, marker, hs, hm with
  | none, .date _, _, _ => exact congrArg _ (hall rfl)
  | none, .token _, _, _ => exact congrArg _ (hall rfl)
  | some (.token _), .date _, _, hm => exact congrArg _ (hall (if_pos hm.1))
  | some (.date _), .token _, _, hm => exact congrArg _ (hall (if_neg hm.1))
  | some (.date date), .date top, hs, hm =>
    obtain ⟨hd, htop, hmax⟩ := hm
    have hiff : date.instant < top.instant ↔ feed.selection (some (.date date)) ≠ [] := by
      rw [selection_date_ne_nil_iff hd]
      constructor
      · exact fun hlt => ⟨top, htop, hlt⟩
      · rintro ⟨a, ha, hlt⟩
        have := hmax a ha
        omega
    rw [Marker.newerThan, later?_of_comparable (hs.seenDate hd date rfl top htop)]
    refine congrArg Except.ok (Bool.eq_iff_iff.mpr ?_)
    rw [decide_eq_true_iff, hiff, Bool.not_eq_true', List.isEmpty_eq_false_iff]
  | some (.token token), .token own, hs, hm =>
    obtain ⟨hd, ⟨text, rfl⟩, first, rest, hitems, hguid⟩ := hm
    obtain ⟨seenText, rfl⟩ := hs.seenToken hd token rfl
    have hnamed : first.isNamed (.text seenText) = (Text.lower text == Text.lower seenText) := by
      simp only [Item.isNamed, hguid, BEq.comm]
    refine congrArg Except.ok (Bool.not_inj_iff.mpr ?_)
    rw [selection, if_neg hd, hitems, List.takeWhile_cons, hnamed]
    cases Text.lower text == Text.lower seenText <;> rfl

/-- The feed has a newest item, and its marker is newer than the one at hand. -/
def hasNews (feed : Feed) (seen : Option Marker) : Except Fault Bool := do
  match ← feed.newest with
  | none => pure false
  | some marker => marker.newerThan seen

theorem hasNews_eq_of_news {news : News} (h : feed.news seen = .ok news) :
    feed.hasNews seen = .ok news.fresh.isSome := by
  obtain ⟨_, _, h⟩ := bind_eq_ok.mp h
  obtain ⟨_, _, h⟩ := bind_eq_ok.mp h
  obtain ⟨newest, hnewest, h⟩ := bind_eq_ok.mp h
  simp only [hasNews, hnewest, bind, Except.bind]
  cases newest with
  | none =>
    cases h
    rfl
  | some marker =>
    obtain ⟨newer, hnewer, h⟩ := bind_eq_ok.mp h
    cases h
    refine hnewer.trans ?_
    cases newer <;> rfl

/-- Nothing in a feed is newer than its newest item. -/
theorem Newest.selection_eq_nil {marker : Marker} (hm : feed.Newest (some marker)) :
    feed.selection (some marker) = [] := by
  cases marker with
  | date date =>
    obtain ⟨hd, _, hmax⟩ := hm
    refine Decidable.byContradiction fun h => ?_
    obtain ⟨a, ha, hlt⟩ := (selection_date_ne_nil_iff hd).mp h
    have := hmax a ha
    omega
  | token token =>
    obtain ⟨hd, ⟨text, rfl⟩, first, rest, hitems, hguid⟩ := hm
    have hnamed : first.isNamed (.text text) = true := by
      simp only [Item.isNamed, hguid, beq_self_eq_true]
    rw [selection, if_neg hd, hitems, List.takeWhile_cons, hnamed]
    rfl

theorem Sound.of_newest (hs : feed.Sound seen) {marker : Marker}
    (hm : feed.Newest (some marker)) : feed.Sound (some marker) where
  published := hs.published
  renders := hs.renders
  guids := hs.guids
  comparable := hs.comparable
  seenDate := by
    rintro hd date ⟨⟩ a ha
    exact hs.comparable hd a ha date hm.2.1
  seenToken := by
    rintro hd token ⟨⟩
    exact hm.2.1

/-! ### The news -/

theorem fresh_eq_none_iff {fresh : Option Marker} {items : List Item}
    (h : fresh.isSome = !items.isEmpty) : fresh = none ↔ items = [] := by
  rw [← Option.isNone_iff_eq_none, ← Option.isSome_eq_false_iff, h, Bool.not_eq_eq_eq_not,
    Bool.not_false, List.isEmpty_iff]

/-- The news of a feed: the body is about the items that are newer than the marker, and there is a
fresh marker, that of the newest item, when there is such an item. -/
structure Tells (feed : Feed) (seen : Option Marker) (news : News) : Prop where
  body : Html.body (feed.selection seen) = .ok news.body
  fresh : news.fresh.isSome = !(feed.selection seen).isEmpty
  newest : ∀ marker, news.fresh = some marker →
    feed.newest = .ok (some marker) ∧ feed.Newest (some marker)

theorem Legible.exists_news (hs : feed.Legible seen) {text : String}
    (hbody : Html.body (feed.selection seen) = .ok text) :
    ∃ news, feed.news seen = .ok news ∧ feed.Tells seen news := by
  obtain ⟨marker, hnewest, hm⟩ := hs.exists_newest
  cases marker with
  | none =>
    refine ⟨⟨text, none⟩, ?_, hbody, ?_, fun _ h => nomatch h⟩
    · simp only [news, bind, Except.bind, hs.since_eq, hbody, hnewest]
      rfl
    · have hnone : feed.selection seen = [] :=
        List.eq_nil_of_subset_nil fun item hi => hm ▸ selection_subset feed seen hi
      rw [hnone]
      rfl
  | some marker =>
    refine ⟨⟨text, if !(feed.selection seen).isEmpty then some marker else none⟩, ?_, hbody, ?_, ?_⟩
    · simp only [news, bind, Except.bind, hs.since_eq, hbody, hnewest, hs.newerThan_eq hm]
      rfl
    · cases feed.selection seen <;> rfl
    · intro own hown
      split at hown
      · cases hown
        exact ⟨hnewest, hm⟩
      · cases hown

theorem Sound.exists_news (hs : feed.Sound seen) :
    ∃ news, feed.news seen = .ok news ∧ feed.Tells seen news := by
  have hrenders : ∀ item ∈ feed.selection seen, item.Renders := fun item hi =>
    hs.renders item (selection_subset feed seen hi)
  obtain ⟨text, hbody, _⟩ := Html.exists_body hrenders
  exact hs.toLegible.exists_news hbody

theorem Legible.exists_news_iff (hs : feed.Legible seen) :
    (∃ news, feed.news seen = .ok news) ↔ ∀ item ∈ feed.selection seen, item.Renders := by
  rw [← Html.exists_body_iff]
  constructor
  · rintro ⟨news, h⟩
    obtain ⟨items, hitems, h⟩ := bind_eq_ok.mp h
    obtain ⟨text, hbody, _⟩ := bind_eq_ok.mp h
    obtain rfl : feed.selection seen = items := Except.ok.inj (hs.since_eq.symm.trans hitems)
    exact ⟨text, hbody⟩
  · rintro ⟨text, hbody⟩
    obtain ⟨news, hnews, _⟩ := hs.exists_news hbody
    exact ⟨news, hnews⟩

end Feed

end Newswire

import Newswire.Proofs.Legibility

/-!
The order of a feed. Whether the items are sorted is decided on all that were accepted, whether the
feed is dated on those that were kept. The two decisions agree unless every kept item has a date and
one behind the limit has none: that feed is dated, and yet stands in the order of its document.
-/

namespace Newswire

variable {feed : Feed} {items kept dropped : List Item}

/-- The item is as new as the other one, as far as both have a date. -/
def Item.AsNewAs (item other : Item) : Prop :=
  ∀ a b, item.date? = some a → other.date? = some b → b.later? a = .ok false

/-- The instant of an item. One that has no date is given some instant as well. -/
def Item.instant (item : Item) : Int :=
  (item.date?.map Moment.instant).getD 0

theorem Item.instant_eq {item : Item} {date : Moment} (h : item.date? = some date) :
    item.instant = date.instant := by
  rw [instant, h]
  rfl

theorem Item.Stamped.asNewAs {item other : Item} (hitem : item.Stamped) (hother : other.Stamped)
    (h : other.instant ≤ item.instant) : item.AsNewAs other := by
  intro a b ha hb
  have hcomparable : Moment.Comparable b a := (hother.aware b hb).trans (hitem.aware a ha).symm
  rw [Item.instant_eq ha, Item.instant_eq hb] at h
  rw [Feed.later?_of_comparable hcomparable, decide_eq_false (Int.not_lt.mpr h)]

namespace Feed

/-- Items from the newest to the oldest, and others none of which is newer than any of them. -/
structure NewestFirst (kept dropped : List Item) : Prop where
  within : kept.Pairwise Item.AsNewAs
  across : ∀ item ∈ kept, ∀ other ∈ dropped, item.AsNewAs other

theorem NewestFirst.of_pairwise (h : items.Pairwise Item.AsNewAs) (n : Nat) :
    NewestFirst (items.take n) (items.drop n) := by
  rw [← List.take_append_drop n items, List.pairwise_append] at h
  obtain ⟨hkept, _, hacross⟩ := h
  exact ⟨hkept, hacross⟩

theorem NewestFirst.congr {others : List Item} (h : NewestFirst kept dropped)
    (hperm : (kept ++ dropped).Perm (kept ++ others)) : NewestFirst kept others := by
  have hothers : dropped.Perm others := (List.perm_append_left_iff kept).mp hperm
  refine ⟨h.within, fun item hitem other hother => ?_⟩
  exact h.across item hitem other (hothers.mem_iff.mpr hother)

theorem isDated_eq (h : ∀ item ∈ feed.items, item.Stamped) :
    feed.isDated = .ok (!feed.items.isEmpty && decide feed.Dated) := by
  unfold isDated
  cases hitems : feed.items with
  | nil => rfl
  | cons first rest =>
    rw [← hitems]
    by_cases hd : feed.Dated
    · rw [dates?_of_dated hd, decide_eq_true hd, hitems]
      rfl
    · have hpublished : ∀ item ∈ feed.items, item.published.isSome = true :=
        fun item hitem => (h item hitem).published
      rw [dates?_of_not_dated hpublished hd, decide_eq_false hd, hitems]
      rfl

end Feed

namespace Reading

open Feed

/-! ### Sorting -/

theorem ordered_of_dated (h : ∀ item ∈ items, item.date?.isSome = true) :
    ordered items = items.mergeSort notOlder :=
  if_pos (List.all_eq_true.mpr h)

theorem ordered_of_not_dated (h : ¬ ∀ item ∈ items, item.date?.isSome = true) :
    ordered items = items :=
  if_neg fun hall => h (List.all_eq_true.mp hall)

theorem notOlder_eq {a b : Item} (ha : a.date?.isSome = true) (hb : b.date?.isSome = true) :
    notOlder a b = decide (b.instant ≤ a.instant) := by
  obtain ⟨x, hx⟩ := Option.isSome_iff_exists.mp ha
  obtain ⟨y, hy⟩ := Option.isSome_iff_exists.mp hb
  have hxa : a.published.bind id = some x := hx
  have hyb : b.published.bind id = some y := hy
  rw [notOlder, hxa, hyb, Item.instant_eq hx, Item.instant_eq hy]

theorem pairwise_instant_ordered (h : ∀ item ∈ items, item.date?.isSome = true) :
    (ordered items).Pairwise fun newer older => older.instant ≤ newer.instant := by
  let notBefore (x y : Int) : Bool := decide (y ≤ x)
  have hsorted : ((items.map Item.instant).mergeSort notBefore).Pairwise
      fun x y => notBefore x y = true := by
    apply List.pairwise_mergeSort
    · intro x y z hxy hyz
      simp only [notBefore, decide_eq_true_eq] at *
      omega
    · intro x y
      simp only [notBefore, Bool.or_eq_true, decide_eq_true_eq]
      omega
  -- `notOlder` is no order on items without a date, so sorting is looked at on the instants.
  have hmap : (items.mergeSort notOlder).map Item.instant
      = (items.map Item.instant).mergeSort notBefore :=
    List.map_mergeSort fun a ha b hb => notOlder_eq (h a ha) (h b hb)
  rw [← hmap, List.pairwise_map] at hsorted
  rw [ordered_of_dated h]
  exact hsorted.imp fun hle => of_decide_eq_true hle

theorem pairwise_ordered (h : ∀ item ∈ items, item.date?.isSome = true)
    (hstamped : ∀ item ∈ items, item.Stamped) : (ordered items).Pairwise Item.AsNewAs := by
  refine (pairwise_instant_ordered h).imp_of_mem fun {newer older} hnewer holder hle => ?_
  have hn := hstamped newer (mem_of_mem_ordered hnewer)
  have ho := hstamped older (mem_of_mem_ordered holder)
  exact hn.asNewAs ho hle

/-! ### The limit -/

/-- The feed stands in the order that it is to have, given all items that were accepted. If it is
dated, its items are from the newest to the oldest and no item that was dropped is newer than one
that was kept; otherwise they stand as they were accepted. -/
structure InOrder (feed : Feed) (found : List Item) : Prop where
  count : feed.items.length = min itemLimit found.length
  dated : feed.isDated = .ok true →
    ∃ dropped, (feed.items ++ dropped).Perm found ∧ NewestFirst feed.items dropped
  undated : feed.isDated = .ok false → feed.items = found.take itemLimit

/-- An item that has no date is behind the limit, and none is before it. -/
structure Overlooks (found : List Item) : Prop where
  dated : ∀ item ∈ found.take itemLimit, item.date?.isSome = true
  undated : ∃ item ∈ found.drop itemLimit, item.date? = none

structure KeepsFirst (feed : Feed) (found : List Item) : Prop where
  items : feed.items = (ordered found).take itemLimit
  stamped : ∀ item ∈ found, item.Stamped

variable {found : List Item}

theorem KeepsFirst.subset (h : KeepsFirst feed found) : feed.items ⊆ found := by
  intro item hitem
  have hread : item ∈ ordered found := List.mem_of_mem_take (h.items ▸ hitem)
  exact mem_of_mem_ordered hread

theorem KeepsFirst.isDated_eq (h : KeepsFirst feed found) :
    feed.isDated = .ok (!feed.items.isEmpty && decide feed.Dated) :=
  Feed.isDated_eq fun item hitem => h.stamped item (h.subset hitem)

theorem KeepsFirst.isDated_iff (h : KeepsFirst feed found) :
    feed.isDated = .ok true ↔ feed.items ≠ [] ∧ feed.Dated := by
  rw [h.isDated_eq, Except.ok.injEq, Bool.and_eq_true, decide_eq_true_eq,
    Bool.not_eq_eq_eq_not, Bool.not_true, List.isEmpty_eq_false_iff]

theorem KeepsFirst.count (h : KeepsFirst feed found) :
    feed.items.length = min itemLimit found.length := by
  rw [h.items, List.length_take, (ordered_perm found).length_eq]

theorem KeepsFirst.eq_nil (h : KeepsFirst feed found) (hempty : feed.items = []) : found = [] := by
  have hcount := h.count
  rw [hempty, List.length_nil] at hcount
  apply List.eq_nil_of_length_eq_zero
  simp only [itemLimit] at hcount
  omega

theorem KeepsFirst.isDated_of_dated (h : KeepsFirst feed found)
    (hall : ∀ item ∈ found, item.date?.isSome = true) (hne : found ≠ []) :
    feed.isDated = .ok true := by
  have hdated : feed.Dated := fun item hitem => hall item (h.subset hitem)
  exact h.isDated_iff.mpr ⟨fun hempty => hne (h.eq_nil hempty), hdated⟩

theorem KeepsFirst.items_of_not_dated (h : KeepsFirst feed found)
    (hall : ¬ ∀ item ∈ found, item.date?.isSome = true) : feed.items = found.take itemLimit := by
  rw [h.items, ordered_of_not_dated hall]

theorem Overlooks.not_dated (h : Overlooks found) :
    ¬ ∀ item ∈ found, item.date?.isSome = true := by
  intro hall
  obtain ⟨item, hitem, hnone⟩ := h.undated
  have hsome := hall item (List.mem_of_mem_drop hitem)
  rw [hnone] at hsome
  cases hsome

/-- Where an item without a date is overlooked, the feed is dated and was not sorted. -/
theorem KeepsFirst.of_overlooks (h : KeepsFirst feed found) (ho : Overlooks found) :
    feed.isDated = .ok true ∧ feed.items = found.take itemLimit := by
  have hitems : feed.items = found.take itemLimit := h.items_of_not_dated ho.not_dated
  have hdated : feed.Dated := by
    intro item hitem
    exact ho.dated item (hitems ▸ hitem)
  obtain ⟨item, hitem, _⟩ := ho.undated
  have hne : feed.items ≠ [] := by
    intro hempty
    rw [h.eq_nil hempty] at hitem
    cases hitem
  exact ⟨h.isDated_iff.mpr ⟨hne, hdated⟩, hitems⟩

theorem KeepsFirst.inOrder_iff_of_overlooks (h : KeepsFirst feed found) (ho : Overlooks found) :
    InOrder feed found ↔ NewestFirst (found.take itemLimit) (found.drop itemLimit) := by
  obtain ⟨hdated, hitems⟩ := h.of_overlooks ho
  have happend : feed.items ++ found.drop itemLimit = found := by
    rw [hitems, List.take_append_drop]
  rw [← hitems]
  constructor
  · intro hin
    obtain ⟨dropped, hperm, hnewest⟩ := hin.dated hdated
    rw [← happend] at hperm
    exact hnewest.congr hperm
  · intro hnewest
    exact ⟨h.count, fun _ => ⟨_, .of_eq happend, hnewest⟩, fun _ => hitems⟩

theorem KeepsFirst.inOrder_of_dated (h : KeepsFirst feed found)
    (hall : ∀ item ∈ found, item.date?.isSome = true) : InOrder feed found := by
  have hsorted : (ordered found).Pairwise Item.AsNewAs := pairwise_ordered hall h.stamped
  constructor
  · exact h.count
  · intro _
    refine ⟨(ordered found).drop itemLimit, ?_, ?_⟩
    · rw [h.items, List.take_append_drop]
      exact ordered_perm found
    · rw [h.items]
      exact .of_pairwise hsorted itemLimit
  · intro hnot
    have hnil : found = [] := by
      apply Classical.byContradiction
      intro hne
      rw [h.isDated_of_dated hall hne] at hnot
      cases hnot
    have hempty : feed.items = [] := List.eq_nil_of_subset_nil (hnil ▸ h.subset)
    rw [hempty, hnil, List.take_nil]

theorem KeepsFirst.inOrder_of_not_dated (h : KeepsFirst feed found)
    (hall : ¬ ∀ item ∈ found, item.date?.isSome = true) (hnot : ¬ feed.Dated) :
    InOrder feed found := by
  constructor
  · exact h.count
  · intro hdated
    exact absurd (h.isDated_iff.mp hdated).2 hnot
  · exact fun _ => h.items_of_not_dated hall

theorem KeepsFirst.inOrder_of_not_overlooks (h : KeepsFirst feed found) (ho : ¬ Overlooks found) :
    InOrder feed found := by
  by_cases hall : ∀ item ∈ found, item.date?.isSome = true
  · exact h.inOrder_of_dated hall
  · refine h.inOrder_of_not_dated hall fun hdated => ho ?_
    have hitems : feed.items = found.take itemLimit := h.items_of_not_dated hall
    have hkept : ∀ item ∈ found.take itemLimit, item.date?.isSome = true := by
      intro item hitem
      exact hdated item (hitems ▸ hitem)
    refine ⟨hkept, Classical.byContradiction fun hnone => hall fun item hitem => ?_⟩
    rw [← List.take_append_drop itemLimit found] at hitem
    rcases List.mem_append.mp hitem with hbefore | hbehind
    · exact hkept item hbefore
    · exact Option.isSome_iff_ne_none.mpr fun hd => hnone ⟨item, hbehind, hd⟩

/-! ### Documents -/

variable {document : Value} {address : Option String}

theorem exists_keepsFirst_of_fetch (h : fetch document address = .ok feed) :
    ∃ entries, entriesOf document = .ok entries ∧ KeepsFirst feed (accepted entries) := by
  obtain ⟨entries, hentries, hitems⟩ := exists_entries_of_fetch h
  refine ⟨entries, hentries, hitems, fun item hitem => ?_⟩
  obtain ⟨entry, _, hmade⟩ := exists_entry_of_mem_accepted hitem
  exact stamped_of_item hmade

/-- It can always be told of a feed that was read whether it is dated. It stands in the order that
it is to have, unless an item without a date is overlooked behind the limit and the accepted items
do not happen to be sorted; there the feed is dated, and has them in the order of the document. -/
theorem in_order_unless_overlooked (h : fetch document address = .ok feed) :
    ∃ entries dated, entriesOf document = .ok entries ∧ feed.isDated = .ok dated ∧
      let found := accepted entries
      (InOrder feed found ↔ (Overlooks found →
        NewestFirst (found.take itemLimit) (found.drop itemLimit))) ∧
      (Overlooks found → dated = true ∧ feed.items = found.take itemLimit) := by
  obtain ⟨entries, hentries, hkeeps⟩ := exists_keepsFirst_of_fetch h
  refine ⟨entries, _, hentries, hkeeps.isDated_eq, ?_, ?_⟩
  · by_cases ho : Overlooks (accepted entries)
    · rw [hkeeps.inOrder_iff_of_overlooks ho]
      exact ⟨fun hnewest _ => hnewest, fun hnewest => hnewest ho⟩
    · exact iff_of_true (hkeeps.inOrder_of_not_overlooks ho) fun hover => absurd hover ho
  · intro ho
    obtain ⟨hdated, hitems⟩ := hkeeps.of_overlooks ho
    rw [hkeeps.isDated_eq] at hdated
    exact ⟨Except.ok.inj hdated, hitems⟩

/-- An entry with the date of one second or the next, or with none. -/
def entryAt (second : Option (Fin 2)) : Value :=
  .record (("id", .text "a") :: second.toList.map fun s =>
    ("published_parsed", .stamp ([2026, 2, 13, 10, 0, (s : Int)].map .int)))

def itemAt (second : Option (Fin 2)) : Item where
  guid := some (.text "a")
  title := some (.text "Untitled")
  link := some .null
  summary := some .null
  published := some (second.map fun (s : Fin 2) =>
    ⟨⟨2026, 2, 13, by decide⟩, ⟨10, 0, s, 0, by omega⟩, some .utc⟩)

theorem itemOrWarning_entryAt : ∀ second, itemOrWarning (entryAt second) = .inl (itemAt second)
  | none => rfl
  | some 0 => rfl
  | some 1 => rfl

theorem accepted_entryAt (seconds : List (Option (Fin 2))) :
    accepted (seconds.map entryAt) = seconds.map itemAt := by
  have hread : itemOrWarning ∘ entryAt = Sum.inl ∘ itemAt := funext itemOrWarning_entryAt
  rw [accepted, List.map_map, hread, List.filterMap_map]
  exact congrFun List.filterMap_eq_map seconds

theorem fetch_page (entries : List Value) : fetch (page entries) (some "http://news")
    = .ok {
        title := .text "News"
        items := (ordered (accepted entries)).take itemLimit
        warnings := (Reading.items entries).2 } := rfl

/-- A feed of more items than are kept, the earliest first, is dated and in order. -/
theorem in_order_beyond_limit :
    let seconds : List (Option (Fin 2)) := some 0 :: List.replicate 50 (some 1)
    ∃ feed, fetch (page (seconds.map entryAt)) (some "http://news") = .ok feed ∧
      feed.isDated = .ok true ∧ InOrder feed (seconds.map itemAt) := by
  intro seconds
  have hfetch := fetch_page (seconds.map entryAt)
  have hdated : ∀ item ∈ seconds.map itemAt, item.date?.isSome = true := by decide
  obtain ⟨_, ⟨⟩, hkeeps⟩ := exists_keepsFirst_of_fetch hfetch
  obtain ⟨_, _, ⟨⟩, _, hin, _⟩ := in_order_unless_overlooked hfetch
  rw [accepted_entryAt] at hkeeps hin
  refine ⟨_, hfetch, hkeeps.isDated_of_dated hdated (List.cons_ne_nil _ _), ?_⟩
  exact hin.mpr fun ho => absurd hdated ho.not_dated

/-- It is not so that every feed that was read is in order: here the item behind the limit has no
date, and those before it are sorted the other way. -/
theorem undated_item_overlooked :
    ¬ ∀ (document : Value) (address : Option String) (feed : Feed) (entries : List Value),
      fetch document address = .ok feed → entriesOf document = .ok entries →
      InOrder feed (accepted entries) := by
  intro hall
  let seconds : List (Option (Fin 2)) := some 0 :: List.replicate 49 (some 1)
  have hfetch := fetch_page ((seconds ++ [none]).map entryAt)
  obtain ⟨_, ⟨⟩, hkeeps⟩ := exists_keepsFirst_of_fetch hfetch
  have hin := hall _ _ _ _ hfetch rfl
  rw [accepted_entryAt] at hkeeps hin
  have hover : Overlooks ((seconds ++ [none]).map itemAt) := by
    refine ⟨?_, itemAt none, List.mem_singleton_self _, rfl⟩
    decide
  obtain ⟨hsorted, _⟩ := (hkeeps.inOrder_iff_of_overlooks hover).mp hin
  have hfirst : (itemAt (some 0)).AsNewAs (itemAt (some 1)) :=
    List.rel_of_pairwise_cons hsorted (List.mem_cons_self ..)
  cases hfirst _ _ rfl rfl

end Reading

end Newswire

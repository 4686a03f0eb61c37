import Newswire.Feed.Reading
import Newswire.Proofs.Conduct
import Newswire.Proofs.Delivery.Runs

/-!
What reading makes of a document whose entries hold texts, or nothing, where an item takes their
fields over. Their dates, all their other fields, and entries that are no records at all, may be
anything. Every item then has what selecting needs, so it never fails, for anyone who has read
nothing or remembers such a feed. An item also has what it needs to be shown, but for one thing: a
title that is there and null is taken over as it is, and then the item cannot be shown.
-/

namespace Newswire

/-- The value is a text, or null. -/
def Value.Plain (v : Value) : Prop :=
  v = .null ∨ ∃ text, v = .text text

theorem Value.Plain.exists_text {v : Value} (h : v.Plain) (htruthy : v.truthy = true) :
    ∃ text, v = .text text := by
  rcases h with rfl | h
  · cases htruthy
  · exact h

/-- The item says when it was published, by a date that knows its offset, or that this is not
known. -/
structure Item.Stamped (item : Item) : Prop where
  published : item.published.isSome = true
  aware : ∀ date, item.date? = some date → date.offset.isSome = true

/-- The item says what reading a plain entry makes it say. -/
structure Item.Plain (item : Item) : Prop where
  guid : ∃ text, item.guid = some (.text text)
  title : ∃ v, item.title = some v ∧ v.Plain
  link : ∃ v, item.link = some v ∧ v.Plain
  summary : ∃ v, item.summary = some v ∧ v.Plain
  published : item.published.isSome = true
  aware : ∀ date, item.date? = some date → date.offset.isSome = true

/-! ### Plain items -/

namespace Html

theorem exists_telling?_eq {v : Value} (h : v.Plain) :
    ∃ text : Option String, telling? (some v) = text.map Value.text := by
  unfold telling?
  rw [Option.filter_some]
  split
  · next htruthy =>
    obtain ⟨text, rfl⟩ := h.exists_text htruthy
    exact ⟨some text, rfl⟩
  · exact ⟨none, rfl⟩

theorem exists_heading {item : Item} (hitem : item.Plain) {title : String}
    (htitle : item.title = some (.text title)) : ∃ text, heading item = .ok text := by
  obtain ⟨link, hlink, hplain⟩ := hitem.link
  obtain ⟨text, htext⟩ := exists_telling?_eq hplain
  unfold heading
  rw [htitle, hlink, htext]
  cases text with
  | none => exact ⟨_, rfl⟩
  | some text => exact ⟨_, rfl⟩

/-- A plain item can be shown unless its title is null. -/
theorem renders_iff_of_plain {item : Item} (hitem : item.Plain) :
    item.Renders ↔ item.title ≠ some .null := by
  obtain ⟨title, htitle, hplain⟩ := hitem.title
  constructor
  · intro hrenders hnull
    have hparts := renders_iff.mp hrenders
    unfold itemParts heading at hparts
    rw [hnull] at hparts
    cases hparts
  · intro hne
    obtain ⟨text, rfl⟩ : ∃ text, title = .text text :=
      hplain.resolve_left fun hnull => hne (htitle.trans (congrArg some hnull))
    obtain ⟨head, hhead⟩ := exists_heading hitem htitle
    obtain ⟨summary, hsummary, hplain⟩ := hitem.summary
    obtain ⟨body, hbody⟩ := exists_telling?_eq hplain
    let date := (item.published.bind id).map fun m => "<i>" ++ m.short ++ " UTC</i>"
    refine renders_of_itemParts
      (("<b>" ++ head ++ "</b>") :: date.toList ++ body.toList ++ ["<br>"]) ?_
    unfold itemParts
    rw [hhead, hsummary, hbody]
    dsimp only [date]
    cases item.published.bind id <;> cases body <;> rfl

end Html

namespace Reading

/-! ### Entries -/

/-- The fields of an entry that an item takes over as they stand. -/
def plainFields : List String :=
  ["id", "guid", "link", "title", "summary", "description"]

/-- The entry has a text or null in each field that an item takes over as it stands, if the field is
there and the entry is a record. -/
def PlainEntry (entry : Value) : Prop :=
  ∀ name ∈ plainFields, ∀ v, Document.get entry name = .ok (some v) → v.Plain

variable {entry v : Value} {name : String} {item : Item} {names : List String}

theorem plainEntry_of_fields {fields : List (String × Value)} (h : ∀ f ∈ fields, f.2.Plain) :
    PlainEntry (.record fields) := by
  intro name _ v hget
  have hfound : Document.field? fields name = some v := Except.ok.inj hget
  obtain ⟨own, _, hlookup⟩ := List.exists_of_findSome?_eq_some hfound
  obtain ⟨before, after, rfl, _⟩ := List.lookup_eq_some_iff.mp hlookup
  exact h (own, v) (List.mem_append_right _ List.mem_cons_self)

theorem plainEntry_of_int (n : Int) : PlainEntry (.int n) :=
  fun _ _ _ hget => nomatch hget

theorem plain_of_getOrNull (he : PlainEntry entry) (hname : name ∈ plainFields)
    (h : Document.getOrNull entry name = .ok v) : v.Plain := by
  unfold Document.getOrNull at h
  cases hget : Document.get entry name with
  | error misuse =>
    rw [hget] at h
    cases h
  | ok found =>
    rw [hget] at h
    cases found with
    | none =>
      cases h
      exact .inl rfl
    | some own =>
      cases h
      exact he name hname own hget

theorem plain_of_firstTelling (he : PlainEntry entry) (hnames : names ⊆ plainFields)
    (h : firstTelling entry names = .ok v) : v.Plain := by
  induction names with
  | nil =>
    cases h
    exact .inl rfl
  | cons name rest ih =>
    obtain ⟨hname, hrest⟩ := List.cons_subset.mp hnames
    cases rest with
    | nil => exact plain_of_getOrNull he hname h
    | cons next others =>
      obtain ⟨own, hown, h⟩ := bind_eq_ok.mp h
      split at h
      · cases h
        exact plain_of_getOrNull he hname hown
      · exact ih hrest h

theorem aware_of_stampDate? {date : Moment} (h : stampDate? v = .ok (some date)) :
    date.offset.isSome = true := by
  unfold stampDate? at h
  split at h
  · obtain ⟨numbers, _, h⟩ := bind_eq_ok.mp h
    obtain ⟨ns, _, hdate⟩ := Option.bind_eq_some_iff.mp (Except.ok.inj h)
    unfold ofNumbers? at hdate
    split at hdate
    · split at hdate
      · unfold Moment.utc? at hdate
        split at hdate
        · cases hdate
          rfl
        · cases hdate
      · cases hdate
    · cases hdate
  · cases h

theorem aware_of_entryDate? {date : Moment} (h : entryDate? entry = .ok (some date)) :
    date.offset.isSome = true := by
  obtain ⟨published, _, h⟩ := bind_eq_ok.mp h
  obtain ⟨found, hfound, h⟩ := bind_eq_ok.mp h
  cases found with
  | some own =>
    cases h
    exact aware_of_stampDate? hfound
  | none =>
    obtain ⟨updated, _, h⟩ := bind_eq_ok.mp h
    exact aware_of_stampDate? h

theorem stamped_of_item (h : Reading.item entry = .ok (.inl item)) : item.Stamped := by
  obtain ⟨_, _, h⟩ := bind_eq_ok.mp h
  split at h
  · obtain ⟨_, _, h⟩ := bind_eq_ok.mp h
    obtain ⟨_, _, h⟩ := bind_eq_ok.mp h
    obtain ⟨_, _, h⟩ := bind_eq_ok.mp h
    obtain ⟨date, hdate, h⟩ := bind_eq_ok.mp h
    cases h
    refine ⟨rfl, fun own hown => ?_⟩
    obtain rfl : date = some own := Option.join_eq_some_iff.mp hown |> Option.some.inj
    exact aware_of_entryDate? hdate
  · obtain ⟨_, _, h⟩ := bind_eq_ok.mp h
    cases h

theorem plain_of_item (he : PlainEntry entry) (h : Reading.item entry = .ok (.inl item)) :
    item.Plain := by
  have hstamped : item.Stamped := stamped_of_item h
  obtain ⟨guid, hguid, h⟩ := bind_eq_ok.mp h
  have hguidPlain : guid.Plain := plain_of_firstTelling he (by decide) hguid
  split at h
  · next htruthy =>
    obtain ⟨title, htitle, h⟩ := bind_eq_ok.mp h
    obtain ⟨link, hlink, h⟩ := bind_eq_ok.mp h
    obtain ⟨summary, hsummary, h⟩ := bind_eq_ok.mp h
    obtain ⟨date, hdate, h⟩ := bind_eq_ok.mp h
    cases h
    obtain ⟨text, htext⟩ := hguidPlain.exists_text htruthy
    constructor
    · exact ⟨text, congrArg some htext⟩
    · refine ⟨_, rfl, ?_⟩
      cases title with
      | none => exact .inr ⟨_, rfl⟩
      | some own => exact he "title" (by decide) own htitle
    · exact ⟨_, rfl, plain_of_getOrNull he (by decide) hlink⟩
    · exact ⟨_, rfl, plain_of_firstTelling he (by decide) hsummary⟩
    · exact hstamped.published
    · exact hstamped.aware
  · obtain ⟨title, _, h⟩ := bind_eq_ok.mp h
    cases h

/-- The items that are made of some entries, in the order of these. -/
def accepted (entries : List Value) : List Item :=
  (entries.map itemOrWarning).filterMap leftOf

theorem ordered_perm (items : List Item) : (ordered items).Perm items := by
  unfold ordered
  split
  · exact List.mergeSort_perm items notOlder
  · exact List.Perm.refl items

theorem mem_of_mem_ordered {items : List Item} (h : item ∈ ordered items) : item ∈ items :=
  (ordered_perm items).mem_iff.mp h

theorem exists_entry_of_mem_accepted {entries : List Value} (h : item ∈ accepted entries) :
    ∃ entry ∈ entries, Reading.item entry = .ok (.inl item) := by
  obtain ⟨found, hfound, hleft⟩ := List.mem_filterMap.mp h
  obtain ⟨entry, hentry, rfl⟩ := List.mem_map.mp hfound
  refine ⟨entry, hentry, ?_⟩
  unfold itemOrWarning at hleft
  cases hitem : Reading.item entry with
  | error misuse =>
    rw [hitem] at hleft
    cases hleft
  | ok found =>
    rw [hitem] at hleft
    cases found with
    | inl own =>
      cases hleft
      rfl
    | inr warning => cases hleft

/-! ### Documents -/

/-- What a document gives as its entries, one by one. -/
def entriesOf (document : Value) : Except Misuse (List Value) :=
  Document.member document "entries" >>= Document.elements

def PlainDocument (document : Value) : Prop :=
  ∀ entries, entriesOf document = .ok entries → ∀ entry ∈ entries, PlainEntry entry

variable {document : Value} {address : Option String} {feed : Feed}

theorem mapError_eq_ok {ε δ α : Type} {f : ε → δ} {x : Except ε α} {a : α}
    (h : x.mapError f = .ok a) : x = .ok a := by
  cases x with
  | error e => cases h
  | ok own => exact congrArg _ (Except.ok.inj h)

/-- The items of a feed are the first of those that are made of the entries of its document, once
these are in order. -/
theorem exists_entries_of_fetch (h : fetch document address = .ok feed) :
    ∃ entries, entriesOf document = .ok entries ∧
      feed.items = (ordered (accepted entries)).take itemLimit := by
  obtain ⟨_, _, h⟩ := bind_eq_ok.mp h
  unfold Reading.feed at h
  simp only [bind_eq_ok] at h
  obtain ⟨_, _, channel, _, title, _, odd, _, trouble, _, h⟩ := h
  by_cases htitle : (!title.truthy) = true
  · rw [if_pos htitle] at h
    split at h <;> cases h
  · rw [if_neg htitle] at h
    obtain ⟨found, hfound, h⟩ := bind_eq_ok.mp h
    obtain ⟨entries, hentries, h⟩ := bind_eq_ok.mp h
    cases h
    refine ⟨entries, ?_, rfl⟩
    exact bind_eq_ok.mpr ⟨found, mapError_eq_ok hfound, mapError_eq_ok hentries⟩

theorem plain_of_fetch (hplain : PlainDocument document) (h : fetch document address = .ok feed) :
    ∀ item ∈ feed.items, item.Plain := by
  intro item hitem
  obtain ⟨entries, hentries, hitems⟩ := exists_entries_of_fetch h
  have hread : item ∈ ordered (accepted entries) := List.mem_of_mem_take (hitems ▸ hitem)
  obtain ⟨entry, hentry, hmade⟩ := exists_entry_of_mem_accepted (mem_of_mem_ordered hread)
  exact plain_of_item (hplain entries hentries entry hentry) hmade

/-! ### Feeds -/

/-- The marker is none, or that of the newest item of a feed that was read from a plain document. -/
def Remembered (seen : Option Marker) : Prop :=
  seen = none ∨ ∃ document address feed,
    PlainDocument document ∧ fetch document address = .ok feed ∧ feed.newest = .ok seen

theorem aware_of_plain (hitems : ∀ item ∈ feed.items, item.Plain) :
    ∀ a ∈ feed.moments, a.offset.isSome = true := by
  intro a ha
  obtain ⟨item, hitem, hdate⟩ := List.mem_filterMap.mp ha
  exact (hitems item hitem).aware a hdate

/-- Plain items can be set against a marker that is fit for them. -/
theorem legible_of_plain (hitems : ∀ item ∈ feed.items, item.Plain) {seen : Option Marker}
    (seenDate : ∀ date, seen = some (.date date) → date.offset.isSome = true)
    (seenToken : ∀ token, seen = some (.token token) → ∃ text, token = .text text) :
    feed.Legible seen :=
  .of_aware (fun item hitem => (hitems item hitem).published)
    (fun _ item hitem => (hitems item hitem).guid) (aware_of_plain hitems) seenDate seenToken

theorem legible_of_remembered {seen : Option Marker} (hseen : Remembered seen)
    (hitems : ∀ item ∈ feed.items, item.Plain) : feed.Legible seen := by
  rcases hseen with rfl | ⟨document, address, earlier, hplain, hfetch, hnewest⟩
  · exact legible_of_plain hitems (fun _ h => nomatch h) (fun _ h => nomatch h)
  · have hearlier : ∀ item ∈ earlier.items, item.Plain := plain_of_fetch hplain hfetch
    have hlegible : earlier.Legible none :=
      legible_of_plain hearlier (fun _ h => nomatch h) (fun _ h => nomatch h)
    obtain ⟨marker, hmarker, hm⟩ := hlegible.exists_newest
    obtain rfl : marker = seen := Except.ok.inj (hmarker.symm.trans hnewest)
    refine legible_of_plain hitems ?_ ?_
    · rintro date rfl
      exact aware_of_plain hearlier date hm.2.1
    · rintro token rfl
      exact hm.2.1

theorem exists_isDated {seen : Option Marker} (hs : feed.Legible seen) :
    ∃ dated, feed.isDated = .ok dated := by
  unfold Feed.isDated
  rw [hs.dates?]
  split
  · exact ⟨_, rfl⟩
  · exact ⟨_, rfl⟩

end Reading

theorem Affairs.exists_error_takeIn {a : Affairs} {feed : Feed}
    (h : ¬ ∃ news, feed.news a.contact.marker = .ok news) :
    ∃ fault, (a.takeIn feed).1 = .error fault := by
  cases hnews : feed.news a.contact.marker with
  | ok news => exact absurd ⟨news, hnews⟩ h
  | error fault =>
    rcases hback : a.comeBack with ⟨fault' | _, b⟩
    · exact ⟨fault', congrArg Prod.fst (takeIn_of_stuck hback feed)⟩
    · exact ⟨fault, congrArg Prod.fst (takeIn_of_no_news (congrArg Prod.fst hback) hnews)⟩

namespace Newsroom

theorem exists_check_iff {w : Outside} {s : Newsroom} {h : Handle} {feed : Feed}
    (hfetch : w.fetch (s.contact h).address = .ok feed) (hu : Untroubled w s h feed)
    (onRequest : Bool) :
    (∃ outcome, (exec (check w h onRequest) s).1 = .ok outcome) ↔
      ∃ news, feed.news (s.contact h).marker = .ok news := by
  constructor
  · rintro ⟨outcome, houtcome⟩
    refine Classical.byContradiction fun hno => ?_
    obtain ⟨fault, hfault⟩ := Affairs.exists_error_takeIn (a := (s.fetching h).affairs h) hno
    obtain ⟨hfailed, _⟩ := (affairs_takeIn w h feed onRequest (s.fetching h)).2 fault hfault
    rw [exec_check_of_fetch hfetch, hfailed] at houtcome
    cases houtcome
  · rintro ⟨news, hnews⟩
    exact ⟨_, exec_check_fst hfetch hnews hu onRequest⟩

end Newsroom

namespace Reading

/-- Whatever was read from a document of plain entries can be processed, for anyone who has read
nothing yet or remembers a feed that was read from such a document: it can be told whether the feed
is dated, what its newest item is and which items are new. These items can be shown unless the title
of one of them is null; and a look during which nothing else fails comes to something unless it
is. -/
theorem processed_unless_untitled {document : Value} {address : Option String} {feed : Feed}
    {seen : Option Marker} (hplain : PlainDocument document)
    (hfetch : fetch document address = .ok feed) (hseen : Remembered seen) :
    (∃ dated, feed.isDated = .ok dated) ∧ (∃ newest, feed.newest = .ok newest) ∧
      ∃ items, feed.since seen = .ok items ∧
        ((∃ text, Html.body items = .ok text) ↔ ∀ item ∈ items, item.title ≠ some .null) ∧
        ∀ (w : Outside) (s : Newsroom) (h : Handle) (onRequest : Bool),
          (s.contact h).address = address → (s.contact h).marker = seen →
          w.fetch address = fetch document address → Newsroom.Untroubled w s h feed →
          ((∃ outcome, (Newsroom.exec (Newsroom.check w h onRequest) s).1 = .ok outcome) ↔
            ∀ item ∈ items, item.title ≠ some .null) := by
  have hitems : ∀ item ∈ feed.items, item.Plain := plain_of_fetch hplain hfetch
  have hlegible : feed.Legible seen := legible_of_remembered hseen hitems
  obtain ⟨newest, hnewest, _⟩ := hlegible.exists_newest
  have hrenders : (∀ item ∈ feed.selection seen, item.Renders) ↔
      ∀ item ∈ feed.selection seen, item.title ≠ some .null :=
    forall₂_congr fun item hi =>
      Html.renders_iff_of_plain (hitems item (Feed.selection_subset feed seen hi))
  refine ⟨exists_isDated hlegible, ⟨newest, hnewest⟩, feed.selection seen, hlegible.since_eq,
    Html.exists_body_iff.trans hrenders, ?_⟩
  intro w s h onRequest haddress hmarker hworld hu
  have hfound : w.fetch (s.contact h).address = .ok feed := by rw [haddress, hworld, hfetch]
  rw [Newsroom.exists_check_iff hfound hu onRequest, hmarker, hlegible.exists_news_iff, hrenders]

def page (entries : List Value) : Value :=
  .record [("feed", .record [("title", .text "News")]), ("entries", .list entries)]

/-- An entry with a name and a title. -/
def entryTitled (title : Value) : Value :=
  .record [("id", .text "a"), ("title", title)]

theorem plainEntry_entryTitled {title : Value} (h : title.Plain) :
    PlainEntry (entryTitled title) := by
  refine plainEntry_of_fields fun f hf => ?_
  simp only [List.mem_cons, List.not_mem_nil, or_false] at hf
  obtain rfl | rfl := hf
  · exact .inr ⟨_, rfl⟩
  · exact h

/-- The feed of a contact is taken in although one of its entries is no record. -/
theorem processes_page_with_number :
    let item : Item := ⟨some (.text "a"), some (.text "A"), some .null, some .null, some none⟩
    let feed : Feed := ⟨.text "News", [item],
      ["Skipping malformed entry: 'int' object has no attribute 'get'"]⟩
    let w := Outside.showing feed
    let s := Newsroom.bare.withContact 0 (.fresh (some "http://news") .null w.now)
    ∃ outcome, (Newsroom.exec (Newsroom.check w 0 false) s).1 = .ok outcome := by
  intro item feed w s
  have hplain : PlainDocument (page [.int 5, entryTitled (.text "A")]) := by
    rintro _ ⟨⟩
    exact List.forall_mem_cons.mpr ⟨plainEntry_of_int 5,
      List.forall_mem_singleton.mpr (plainEntry_entryTitled (.inr ⟨_, rfl⟩))⟩
  have hfetch : fetch (page [.int 5, entryTitled (.text "A")]) (some "http://news") = .ok feed :=
    rfl
  obtain ⟨_, _, items, hitems, _, hcheck⟩ := processed_unless_untitled hplain hfetch (.inl rfl)
  obtain rfl : [item] = items := Except.ok.inj hitems
  have hquiet := Outside.quiet_showing feed
  refine (hcheck w s 0 false rfl rfl hfetch.symm (.of_no_store hquiet rfl 0 feed)).mpr ?_
  exact List.forall_mem_singleton.mpr fun h => nomatch h

theorem untitled_item_not_shown :
    ¬ ∀ (document : Value) (address : Option String) (feed : Feed) (seen : Option Marker),
      PlainDocument document → fetch document address = .ok feed → Remembered seen →
      ∃ items text, feed.since seen = .ok items ∧ Html.body items = .ok text := by
  intro hall
  let item : Item := ⟨some (.text "a"), some .null, some .null, some .null, some none⟩
  have hplain : PlainDocument (page [entryTitled .null]) := by
    rintro _ ⟨⟩
    exact List.forall_mem_singleton.mpr (plainEntry_entryTitled (.inl rfl))
  have hfetch : fetch (page [entryTitled .null]) (some "http://news")
      = .ok ⟨.text "News", [item], []⟩ := rfl
  obtain ⟨items, text, hitems, hbody⟩ := hall _ _ _ none hplain hfetch (.inl rfl)
  obtain rfl : [item] = items := Except.ok.inj hitems
  cases hbody

end Reading

end Newswire

import Newswire.Proofs.Ordering
import Newswire.Proofs.Written.Moment

/-!
What becomes of the entries of a document. Each of them is made an item or is warned about, in their
order; whatever is wrong with one of them, the others are read all the same. What an item says, its
date above all, and why an entry is left out is said here without following the reading of it. The
items are then sorted if each of them has a date, which never fails, since all these dates are of
universal time.
-/

namespace Newswire

namespace Moment

def sixNumbers (m : Moment) : List Nat :=
  [m.date.year, m.date.month, m.date.day, m.clock.hour, m.clock.minute, m.clock.second]

theorem utc?_eq_some_iff {year month day hour minute second : Nat} {m : Moment} :
    utc? year month day hour minute second = some m ↔
      m.sixNumbers = [year, month, day, hour, minute, second] ∧ m.clock.micro = 0 ∧
        m.offset = some .utc := by
  constructor
  · intro h
    unfold utc? at h
    split at h
    · next date clock hdate hclock =>
      cases h
      unfold makeDate at hdate
      unfold makeClock at hclock
      split_ifs at hdate hclock
      cases hdate
      cases hclock
      exact ⟨rfl, rfl, rfl⟩
    · cases h
  · rintro ⟨hsix, hmicro, hoffset⟩
    obtain ⟨date, clock, offset⟩ := m
    simp only [sixNumbers, List.cons.injEq, and_true] at hsix
    obtain ⟨rfl, rfl, rfl, rfl, rfl, rfl⟩ := hsix
    dsimp only at hmicro hoffset
    have hclock := makeClock_clock clock
    rw [hmicro] at hclock
    rw [utc?, makeDate_date, hclock, hoffset]

end Moment

namespace Reading

open Feed

variable {v : Value} {parts : List Value} {date : Moment} {kind : Kind}

/-! ### Broken-down times -/

/-- The value is a broken-down time that stands for the moment, in universal time. -/
structure Stamps (v : Value) (date : Moment) : Prop where
  parts : ∃ parts, v = .stamp parts ∧
    (parts.take 6).map Value.integer? = date.sixNumbers.map fun n => some (n : Int)
  micro : date.clock.micro = 0
  offset : date.offset = some .utc

/-- A part is no whole number, and the parts before it are numbers that are not too large. -/
inductive Stuck : List Value → Kind → Prop
  | here {part : Value} (rest : List Value) (h : part.integer? = none) :
      Stuck (part :: rest) part.kind
  | later {part : Value} {n : Int} {rest : List Value} {kind : Kind}
      (h : part.integer? = some n) (hn : fitsWord n = true) (hrest : Stuck rest kind) :
      Stuck (part :: rest) kind

def Spoiled (v : Value) (kind : Kind) : Prop :=
  ∃ parts, v = .stamp parts ∧ Stuck (parts.take 6) kind

theorem numbers?_cons_of_fits {part : Value} {n : Int} (h : part.integer? = some n)
    (hn : fitsWord n = true) (rest : List Value) :
    numbers? (part :: rest) = (numbers? rest).map (·.map (n :: ·)) := by
  rw [numbers?, h]
  exact if_pos hn

theorem numbers?_eq_some_iff {ns : List Int} : numbers? parts = .ok (some ns) ↔
    parts.map Value.integer? = ns.map some ∧ ∀ n ∈ ns, fitsWord n = true := by
  constructor
  · intro h
    fun_induction numbers? parts generalizing ns with
    | case1 =>
      cases h
      exact ⟨rfl, List.forall_mem_nil _⟩
    | case2 => cases h
    | case3 part rest n hpart hn ih =>
      cases hrest : numbers? rest with
      | error misuse =>
        rw [hrest] at h
        cases h
      | ok found =>
        rw [hrest] at h
        cases found with
        | none => cases h
        | some others =>
          cases h
          obtain ⟨hothers, hfit⟩ := ih hrest
          refine ⟨?_, List.forall_mem_cons.mpr ⟨hn, hfit⟩⟩
          rw [List.map_cons, hpart, hothers, List.map_cons]
    | case4 => cases h
  · rintro ⟨hparts, hfit⟩
    induction ns generalizing parts with
    | nil =>
      obtain rfl := List.map_eq_nil_iff.mp hparts
      rfl
    | cons n ns ih =>
      obtain ⟨part, rest, rfl, hpart, hrest⟩ := List.map_eq_cons_iff.mp hparts
      obtain ⟨hn, hns⟩ := List.forall_mem_cons.mp hfit
      rw [numbers?_cons_of_fits hpart hn, ih hrest hns]
      rfl

theorem numbers?_eq_error_iff {misuse : Misuse} : numbers? parts = .error misuse ↔
    ∃ kind, misuse = .notInteger kind ∧ Stuck parts kind := by
  constructor
  · intro h
    fun_induction numbers? parts with
    | case1 => cases h
    | case2 part rest hpart =>
      cases h
      exact ⟨part.kind, rfl, .here rest hpart⟩
    | case3 part rest n hpart hn ih =>
      cases hrest : numbers? rest with
      | error own =>
        rw [hrest] at h
        cases h
        obtain ⟨kind, hkind, hstuck⟩ := ih hrest
        exact ⟨kind, hkind, .later hpart hn hstuck⟩
      | ok found =>
        rw [hrest] at h
        cases h
    | case4 => cases h
  · rintro ⟨kind, rfl, hstuck⟩
    induction hstuck with
    | here rest hpart => rw [numbers?, hpart]
    | later hpart hn _ ih =>
      rw [numbers?_cons_of_fits hpart hn, ih]
      rfl

theorem ofNumbers?_eq_some_iff {ns : List Int} : ofNumbers? ns = some date ↔
    ns = date.sixNumbers.map Int.ofNat ∧ date.clock.micro = 0 ∧ date.offset = some .utc := by
  constructor
  · intro h
    unfold ofNumbers? at h
    split at h
    · split at h
      · next y mo d ho mi s hnonneg =>
        obtain ⟨hsix, hrest⟩ := Moment.utc?_eq_some_iff.mp h
        refine ⟨?_, hrest⟩
        rw [hsix]
        simp only [List.map_cons, List.map_nil, Int.ofNat_eq_natCast, Int.toNat_of_nonneg, hnonneg]
      · cases h
    · cases h
  · rintro ⟨rfl, hmicro, hoffset⟩
    simp only [ofNumbers?, Moment.sixNumbers, List.map_cons, List.map_nil, Int.ofNat_eq_natCast,
      Int.natCast_nonneg, and_self, if_true, Int.toNat_natCast]
    exact Moment.utc?_eq_some_iff.mpr ⟨rfl, hmicro, hoffset⟩

theorem fitsWord_of_mem_sixNumbers {n : Nat} (h : n ∈ date.sixNumbers) :
    fitsWord n = true := by
  obtain ⟨⟨_, hyear⟩, ⟨_, hmonth⟩, _, hday⟩ := date.date.valid
  obtain ⟨hhour, hminute, hsecond, _⟩ := date.clock.valid
  have hlength := monthLength_le date.date.year date.date.month
  have hsmall : n ≤ 9999 := by
    simp only [Moment.sixNumbers, List.mem_cons, List.not_mem_nil, or_false] at h
    omega
  simp only [fitsWord, Bool.and_eq_true, decide_eq_true_eq]
  omega

theorem stampDate?_eq_some_iff : stampDate? v = .ok (some date) ↔ Stamps v date := by
  constructor
  · intro h
    unfold stampDate? at h
    split at h
    · next parts =>
      obtain ⟨numbers, hnumbers, h⟩ := bind_eq_ok.mp h
      obtain ⟨ns, rfl, hdate⟩ := Option.bind_eq_some_iff.mp (Except.ok.inj h)
      obtain ⟨hparts, _⟩ := numbers?_eq_some_iff.mp hnumbers
      obtain ⟨rfl, hmicro, hoffset⟩ := ofNumbers?_eq_some_iff.mp hdate
      rw [List.map_map] at hparts
      exact ⟨⟨parts, rfl, hparts⟩, hmicro, hoffset⟩
    · cases h
  · rintro ⟨⟨parts, rfl, hparts⟩, hmicro, hoffset⟩
    have hnumbers : numbers? (parts.take 6) = .ok (some (date.sixNumbers.map Int.ofNat)) := by
      refine numbers?_eq_some_iff.mpr ⟨?_, List.forall_mem_map.mpr fun n hn => ?_⟩
      · rw [hparts, List.map_map]
        rfl
      · exact fitsWord_of_mem_sixNumbers hn
    refine bind_eq_ok.mpr ⟨_, hnumbers, congrArg Except.ok ?_⟩
    exact ofNumbers?_eq_some_iff.mpr ⟨rfl, hmicro, hoffset⟩

theorem stampDate?_eq_error_iff {misuse : Misuse} : stampDate? v = .error misuse ↔
    ∃ kind, misuse = .notInteger kind ∧ Spoiled v kind := by
  constructor
  · intro h
    unfold stampDate? at h
    split at h
    · next parts =>
      obtain hnumbers | ⟨_, _, h⟩ := bind_eq_error.mp h
      · obtain ⟨kind, hkind, hstuck⟩ := numbers?_eq_error_iff.mp hnumbers
        exact ⟨kind, hkind, parts, rfl, hstuck⟩
      · cases h
    · cases h
  · rintro ⟨kind, rfl, parts, rfl, hstuck⟩
    exact bind_eq_error.mpr (.inl (numbers?_eq_error_iff.mpr ⟨kind, rfl, hstuck⟩))

/-! ### Dates -/

def dateFields : List String := ["published_parsed", "updated_parsed"]

/-- What comes of looking for a date in some values: it is that of the first which stands for one.
A value before it that cannot be made out is a misuse, and there may be none at all. -/
inductive Dating : List Value → Except Misuse (Option Moment) → Prop
  | nil : Dating [] (.ok none)
  | stamps {v : Value} {date : Moment} (rest : List Value) (h : Stamps v date) :
      Dating (v :: rest) (.ok (some date))
  | spoiled {v : Value} {kind : Kind} (rest : List Value) (h : Spoiled v kind) :
      Dating (v :: rest) (.error (.notInteger kind))
  | skips {v : Value} {rest : List Value} {found : Except Misuse (Option Moment)}
      (hstamps : ∀ date, ¬ Stamps v date) (hspoiled : ∀ kind, ¬ Spoiled v kind)
      (hrest : Dating rest found) : Dating (v :: rest) found

def told (fields : List (String × Value)) (name : String) : Value :=
  (Document.field? fields name).getD .null

variable {fields : List (String × Value)}

theorem dating_cons {rest : List Value} {found : Except Misuse (Option Moment)}
    (hrest : Dating rest found) :
    Dating (v :: rest) (stampDate? v >>= fun
      | some date => pure (some date)
      | none => found) := by
  cases hv : stampDate? v with
  | error misuse =>
    obtain ⟨kind, rfl, hspoiled⟩ := stampDate?_eq_error_iff.mp hv
    exact .spoiled rest hspoiled
  | ok own =>
    cases own with
    | some date => exact .stamps rest (stampDate?_eq_some_iff.mp hv)
    | none =>
      refine .skips (fun date hstamps => ?_) (fun kind hspoiled => ?_) hrest
      · cases hv.symm.trans (stampDate?_eq_some_iff.mpr hstamps)
      · cases hv.symm.trans (stampDate?_eq_error_iff.mpr ⟨kind, rfl, hspoiled⟩)

theorem dating_entryDate? (fields : List (String × Value)) :
    Dating (dateFields.map (told fields)) (entryDate? (.record fields)) := by
  have hupdated : Dating [told fields "updated_parsed"]
      (stampDate? (told fields "updated_parsed")) := by
    have h := dating_cons (v := told fields "updated_parsed") .nil
    cases hv : stampDate? (told fields "updated_parsed") with
    | error misuse => rwa [hv] at h
    | ok own => cases own <;> rwa [hv] at h
  exact dating_cons hupdated

theorem Dating.unique {values : List Value} {found other : Except Misuse (Option Moment)}
    (h : Dating values found) (hother : Dating values other) : found = other := by
  induction h with
  | nil =>
    cases hother
    rfl
  | stamps rest h =>
    have hv := stampDate?_eq_some_iff.mpr h
    cases hother with
    | stamps _ hown =>
      cases hv.symm.trans (stampDate?_eq_some_iff.mpr hown)
      rfl
    | spoiled _ hspoiled => cases hv.symm.trans (stampDate?_eq_error_iff.mpr ⟨_, rfl, hspoiled⟩)
    | skips hstamps _ _ => exact absurd h (hstamps _)
  | spoiled rest h =>
    have hv := stampDate?_eq_error_iff.mpr ⟨_, rfl, h⟩
    cases hother with
    | stamps _ hstamps => cases hv.symm.trans (stampDate?_eq_some_iff.mpr hstamps)
    | spoiled _ hown =>
      cases hv.symm.trans (stampDate?_eq_error_iff.mpr ⟨_, rfl, hown⟩)
      rfl
    | skips _ hspoiled _ => exact absurd h (hspoiled _)
  | skips hstamps hspoiled _ ih =>
    cases hother with
    | stamps _ h => exact absurd h (hstamps _)
    | spoiled _ h => exact absurd h (hspoiled _)
    | skips _ _ hrest => exact ih hrest

/-! ### Entries -/

/-- The first of some values that says something, or else the last of them. -/
def firstOf (values : List Value) : Value :=
  (values.find? Value.truthy).getD (values.getLast?.getD .null)

theorem firstTelling_record (fields : List (String × Value)) (names : List String) :
    firstTelling (.record fields) names = .ok (firstOf (names.map (told fields))) := by
  induction names with
  | nil => rfl
  | cons name rest ih =>
    cases rest with
    | nil =>
      have hfirst : firstOf [told fields name] = told fields name := by
        unfold firstOf
        cases h : (told fields name).truthy <;> simp [h]
      exact congrArg Except.ok hfirst.symm
    | cons next others =>
      have hstep : firstTelling (.record fields) (name :: next :: others)
          = if (told fields name).truthy then .ok (told fields name)
            else firstTelling (.record fields) (next :: others) := rfl
      rw [hstep, ih]
      unfold firstOf
      cases h : (told fields name).truthy <;> simp [h]

def itemOf (fields : List (String × Value)) (guid : Value) (date : Option Moment) : Item where
  guid := some guid
  title := some ((Document.field? fields "title").getD (.text "Untitled"))
  link := some (told fields "link")
  summary := some (firstOf (["summary", "description"].map (told fields)))
  published := some date

/-- What becomes of an entry: an item, or else a warning. An entry that is no record has no fields
to look at. -/
inductive Sifts : Value → Item ⊕ String → Prop
  | noRecord {entry : Value} (h : ∀ fields, entry ≠ .record fields) :
      Sifts entry (.inr ("Skipping malformed entry: " ++
        (Misuse.noMember entry.kind "get").message))
  | nameless {fields : List (String × Value)}
      (h : (guidFields.map (told fields)).find? Value.truthy = none) :
      Sifts (.record fields) (.inr ("Skipping entry with no identifier: " ++
        ((Document.field? fields "title").getD (.text "unknown")).shown))
  | spoiled {fields : List (String × Value)} {guid : Value} {misuse : Misuse}
      (h : (guidFields.map (told fields)).find? Value.truthy = some guid)
      (hdate : Dating (dateFields.map (told fields)) (.error misuse)) :
      Sifts (.record fields) (.inr ("Skipping malformed entry: " ++ misuse.message))
  | item {fields : List (String × Value)} {guid : Value} {date : Option Moment}
      (h : (guidFields.map (told fields)).find? Value.truthy = some guid)
      (hdate : Dating (dateFields.map (told fields)) (.ok date)) :
      Sifts (.record fields) (.inl (itemOf fields guid date))

theorem item_of_nameless (h : (guidFields.map (told fields)).find? Value.truthy = none) :
    Reading.item (.record fields) = .ok (.inr ("Skipping entry with no identifier: " ++
      ((Document.field? fields "title").getD (.text "unknown")).shown)) := by
  have hfalsy : (firstOf (guidFields.map (told fields))).truthy = false := by
    rw [firstOf, h]
    exact Bool.eq_false_iff.mpr (List.find?_eq_none.mp h (told fields "link") (by simp [guidFields]))
  unfold Reading.item
  rw [firstTelling_record]
  exact if_neg (Bool.eq_false_iff.mp hfalsy)

theorem item_of_named {guid : Value}
    (h : (guidFields.map (told fields)).find? Value.truthy = some guid) :
    Reading.item (.record fields)
      = (entryDate? (.record fields)).map fun date => .inl (itemOf fields guid date) := by
  have hfirst : firstOf (guidFields.map (told fields)) = guid := by
    rw [firstOf, h]
    rfl
  have htruthy : guid.truthy = true := List.find?_some h
  unfold Reading.item
  rw [firstTelling_record, hfirst]
  refine (if_pos htruthy).trans ?_
  rw [firstTelling_record]
  rfl

theorem itemOrWarning_of_noRecord {entry : Value} (h : ∀ fields, entry ≠ .record fields) :
    itemOrWarning entry = .inr ("Skipping malformed entry: " ++
      (Misuse.noMember entry.kind "get").message) := by
  cases entry with
  | record fields => exact absurd rfl (h fields)
  | _ => rfl

/-- Of every entry becomes what is to become of it, and that is one thing only. -/
theorem itemOrWarning_eq_iff {entry : Value} {read : Item ⊕ String} :
    itemOrWarning entry = read ↔ Sifts entry read := by
  constructor
  · rintro rfl
    by_cases hrecord : ∃ fields, entry = .record fields
    · obtain ⟨fields, rfl⟩ := hrecord
      have hdating := dating_entryDate? fields
      cases hguid : (guidFields.map (told fields)).find? Value.truthy with
      | none =>
        rw [itemOrWarning, item_of_nameless hguid]
        exact .nameless hguid
      | some guid =>
        rw [itemOrWarning, item_of_named hguid]
        cases hdate : entryDate? (.record fields) with
        | error misuse => exact .spoiled hguid (hdate ▸ hdating)
        | ok date => exact .item hguid (hdate ▸ hdating)
    · have hno : ∀ fields, entry ≠ .record fields := fun fields h => hrecord ⟨fields, h⟩
      rw [itemOrWarning_of_noRecord hno]
      exact .noRecord hno
  · intro h
    cases h with
    | noRecord hno => exact itemOrWarning_of_noRecord hno
    | nameless hguid => rw [itemOrWarning, item_of_nameless hguid]
    | @spoiled fields _ _ hguid hdate =>
      rw [itemOrWarning, item_of_named hguid, (dating_entryDate? fields).unique hdate]
      rfl
    | @item fields _ _ hguid hdate =>
      rw [itemOrWarning, item_of_named hguid, (dating_entryDate? fields).unique hdate]
      rfl

theorem Sifts.truthy {entry : Value} {item : Item} (h : Sifts entry (.inl item)) :
    ∃ guid, item.guid = some guid ∧ guid.truthy = true := by
  cases h with
  | item hguid _ => exact ⟨_, rfl, List.find?_some hguid⟩

/-- The entries are sifted, one by one: those of which items are made, and those that are warned
about. -/
inductive Sifted : List Value → List Item → List String → Prop
  | nil : Sifted [] [] []
  | item {entry : Value} {item : Item} {entries : List Value} {found : List Item}
      {notes : List String} (h : Sifts entry (.inl item)) (hrest : Sifted entries found notes) :
      Sifted (entry :: entries) (item :: found) notes
  | warning {entry : Value} {note : String} {entries : List Value} {found : List Item}
      {notes : List String} (h : Sifts entry (.inr note)) (hrest : Sifted entries found notes) :
      Sifted (entry :: entries) found (note :: notes)

variable {entries : List Value} {found : List Item} {notes : List String}

theorem sifted_items (entries : List Value) :
    Sifted entries (accepted entries) (Reading.items entries).2 := by
  induction entries with
  | nil => exact .nil
  | cons entry rest ih =>
    unfold accepted Reading.items at ih ⊢
    rw [List.map_cons]
    cases hread : itemOrWarning entry with
    | inl item => exact .item (itemOrWarning_eq_iff.mp hread) ih
    | inr note => exact .warning (itemOrWarning_eq_iff.mp hread) ih

theorem Sifted.count (h : Sifted entries found notes) :
    found.length + notes.length = entries.length := by
  induction h with
  | nil => rfl
  | item _ _ ih =>
    simp only [List.length_cons]
    omega
  | warning _ _ ih =>
    simp only [List.length_cons]
    omega

/-! ### The order of the items -/

/-- Any two of the items can be set against each other by their dates. -/
def Sortable (items : List Item) : Prop :=
  ∀ a ∈ items, ∀ b ∈ items, ∀ x y, a.date? = some x → b.date? = some y →
    x.later? y = .ok (decide (y.instant < x.instant))

/-- The items are sorted from the newest to the oldest, those of one instant standing as before. -/
structure StablySorted (sorted items : List Item) : Prop where
  perm : sorted.Perm items
  newestFirst : sorted.Pairwise fun newer older => older.instant ≤ newer.instant
  stable : ∀ instant, (sorted.filter fun item => item.instant == instant)
    = items.filter fun item => item.instant == instant

/-- The items are sorted if each of them has a date, and stand as before otherwise. -/
structure Arranged (arranged items : List Item) : Prop where
  dated : (∀ item ∈ items, item.date?.isSome = true) → StablySorted arranged items
  undated : (∃ item ∈ items, item.date? = none) → arranged = items

theorem sortable_of_stamped {items : List Item} (h : ∀ item ∈ items, item.Stamped) :
    Sortable items := by
  intro a ha b hb x y hx hy
  have hcomparable : Moment.Comparable x y :=
    ((h a ha).aware x hx).trans ((h b hb).aware y hy).symm
  exact later?_of_comparable hcomparable

theorem filter_ordered {items : List Item} (h : ∀ item ∈ items, item.date?.isSome = true)
    (instant : Int) : ((ordered items).filter fun item => item.instant == instant)
      = items.filter fun item => item.instant == instant := by
  let notBefore (a b : Item) : Bool := decide (b.instant ≤ a.instant)
  have hsort : ordered items = items.mergeSort notBefore := by
    have hmap := List.map_mergeSort (f := id) (r := notOlder) (s := notBefore)
      fun a ha b hb => notOlder_eq (h a ha) (h b hb)
    rwa [List.map_id, List.map_id, ← ordered_of_dated h] at hmap
  have hsub : (items.filter fun item => item.instant == instant).Sublist (ordered items) := by
    rw [hsort]
    refine List.sublist_mergeSort ?_ ?_ ?_ List.filter_sublist
    · intro a b c hab hbc
      simp only [notBefore, decide_eq_true_eq] at *
      omega
    · intro a b
      simp only [notBefore, Bool.or_eq_true, decide_eq_true_eq]
      omega
    · refine List.pairwise_of_forall_mem_list fun a ha b hb => ?_
      have hown := beq_iff_eq.mp (List.mem_filter.mp ha).2
      have hother := beq_iff_eq.mp (List.mem_filter.mp hb).2
      exact decide_eq_true (Int.le_of_eq (hother.trans hown.symm))
  -- Both sides hold equally many items, so the one that is part of the other is all of it.
  have hpart := hsub.filter fun item => item.instant == instant
  rw [List.filter_filter] at hpart
  simp only [Bool.and_self] at hpart
  have hlength := ((ordered_perm items).filter fun item => item.instant == instant).length_eq
  exact (hpart.eq_of_length hlength.symm).symm

theorem arranged_ordered (items : List Item) : Arranged (ordered items) items := by
  constructor
  · exact fun h => ⟨ordered_perm items, pairwise_instant_ordered h, filter_ordered h⟩
  · rintro ⟨item, hitem, hnone⟩
    refine ordered_of_not_dated fun hall => ?_
    have hsome := hall item hitem
    rw [hnone] at hsome
    cases hsome

/-- No entry is lost or doubled: each is made one item or is warned about once, and the warnings
follow the earlier ones. The items can be sorted, and are if each of them has a date. -/
theorem each_entry_sifted_once (entries : List Value) (warnings : List String) :
    ∃ found notes, Sifted entries found notes ∧
      (extract entries warnings).2 = warnings ++ notes ∧
      (extract entries warnings).1.length + notes.length = entries.length ∧
      (∀ item ∈ (extract entries warnings).1,
        ∃ guid, item.guid = some guid ∧ guid.truthy = true) ∧
      Sortable found ∧ Arranged (extract entries warnings).1 found := by
  have hsifted := sifted_items entries
  have hperm : (extract entries warnings).1.Perm (accepted entries) :=
    ordered_perm (accepted entries)
  refine ⟨_, _, hsifted, rfl, ?_, ?_, ?_, arranged_ordered (accepted entries)⟩
  · rw [hperm.length_eq]
    exact hsifted.count
  · intro item hitem
    obtain ⟨entry, _, hmade⟩ := exists_entry_of_mem_accepted (hperm.mem_iff.mp hitem)
    have hread : itemOrWarning entry = .inl item := by rw [itemOrWarning, hmade]
    exact (itemOrWarning_eq_iff.mp hread).truthy
  · refine sortable_of_stamped fun item hitem => ?_
    obtain ⟨entry, _, hmade⟩ := exists_entry_of_mem_accepted hitem
    exact stamped_of_item hmade

example : extract [entryAt none, .int 5, .record []] ["Odd"] = ([itemAt none],
    ["Odd", "Skipping malformed entry: 'int' object has no attribute 'get'",
      "Skipping entry with no identifier: unknown"]) := rfl

end Reading

end Newswire

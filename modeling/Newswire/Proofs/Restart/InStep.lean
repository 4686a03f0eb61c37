import Mathlib.Data.List.Perm.Basic
import Newswire.Proofs.Restart.Mirroring

/-!
The list and the table keep in step. Whatever is done, and however it ends, each contact of the list
has its row, in the same order, and can be restored from it. So a list that is loaded anew holds the
same contacts, but for names and markers that cannot be written in bytes.
-/

namespace Newswire

theorem Contact.lasting_fresh (address : String) {name : Value}
    (hname : name = .null ∨ ∃ text, name = .text text) (now : Moment) :
    (Contact.fresh (some address) name now).Lasting where
  name := by
    unfold fresh
    split
    · next htruthy =>
      rcases hname with rfl | hname
      · cases htruthy
      · exact hname
    · exact ⟨address, rfl⟩
  marker _ hm := nomatch hm

/-- The row can be read at any time alike, and is about a contact that is stored. -/
structure Row.Kept (row : Row) : Prop where
  persistent : row.persistent = true
  created : row.created.isEmpty = false
  address : textCell row.address = .ok row.address

theorem Row.Kept.contact_eq {row : Row} (h : row.Kept) (now later : Moment) :
    row.contact later = row.contact now := by
  unfold Row.contact
  simp only [h.created, Bool.false_eq_true, if_false]

/-- A store to begin with: it is open, and each of its rows can be read. -/
structure Store.Stocked (store : Store) : Prop where
  isOpen : store.isOpen = true
  sound : store.Sound
  kept : ∀ row ∈ store.rows, row.Kept

namespace Newsroom

variable {s t : Newsroom} {store : Store}

/-- Each contact of the list has its row, in the same order, and can be restored from it. -/
structure InStep (s : Newsroom) (store : Store) : Prop where
  known : ∀ h ∈ s.roster, h < s.size
  backed : s.store = some store
  isOpen : store.isOpen = true
  sound : store.Sound
  aligned : s.contacts.map Contact.address = store.rows.map fun row => some row.address
  mirrored : ∀ h ∈ s.roster, ∃ row, (s.affairs h).Mirrored row

theorem mem_roster_iff_of_sparing {hs : List Handle} {feeds : List (Handle × Option String)}
    (hspared : Sparing hs feeds s t) (hsettled : ∀ h ∈ hs, (t.affairs h).Settled)
    (hmirrored : ∀ h ∈ t.roster, ∃ row, (t.affairs h).Mirrored row) (hstore : t.store = some store)
    {h : Handle} (hh : h ∈ s.roster) :
    h ∈ t.roster ↔ ∃ row ∈ store.rows, some row.address = (s.contact h).address := by
  constructor
  · intro hm
    obtain ⟨row, hrow⟩ := hmirrored h hm
    exact ⟨row, mem_of_filed hrow.filed hstore,
      hrow.address.symm.trans (hspared.address h)⟩
  · rintro ⟨row, hrow, hown⟩
    by_cases hn : h ∈ hs
    · rcases hsettled h hn with ⟨hone, _⟩ | ⟨_, hnone⟩
      · exact List.count_pos_iff.mp (show 0 < (t.affairs h).listed by omega)
      · -- a contact that was removed has left no row
        have hfiled : (t.affairs h).filed = some (store.only (s.contact h).address) := by
          rw [affairs, hstore, hspared.address, Option.map_some]
        have honly : (store.only (s.contact h).address).rows = [] :=
          congrArg Store.rows (Option.some.inj (hfiled.symm.trans hnone))
        have hm := Store.mem_rows_only.mpr ⟨hrow, hown⟩
        rw [honly] at hm
        cases hm
    · rw [← List.count_pos_iff, hspared.count h hn, List.count_pos_iff]
      exact hh

namespace InStep

theorem distinct (hs : s.InStep store) : (s.contacts.map Contact.address).Nodup := by
  have hrows := hs.sound.unique.map fun _ _ => Option.some.inj
  rw [List.map_map] at hrows
  exact hs.aligned ▸ hrows

theorem listed_eq_one (hs : s.InStep store) {h : Handle} (hh : h ∈ s.roster) :
    (s.affairs h).listed = 1 := by
  have hdistinct := hs.distinct
  rw [contacts, List.map_map] at hdistinct
  exact List.count_eq_one_of_mem (List.Nodup.of_map _ hdistinct) hh

theorem noting (hs : s.InStep store) (notes : List Journal.Note) :
    (s.noting notes).InStep store :=
  { hs with
    mirrored := fun h hh => by
      rw [affairs_noting]
      exact hs.mirrored h hh }

theorem restores (hs : s.InStep store) {now : Moment} {cs : List Contact}
    (hall : store.all now = .ok cs) : List.Forall₂ Contact.Restores cs s.contacts := by
  have haligned : cs.map Contact.address = s.contacts.map Contact.address :=
    (Store.addresses_of_all hall).trans hs.aligned.symm
  rw [← List.forall₂_eq_eq_eq, List.forall₂_map_left_iff, List.forall₂_map_right_iff,
    List.forall₂_iff_zip] at haligned
  obtain ⟨hlength, haddress⟩ := haligned
  refine List.forall₂_iff_zip.mpr ⟨hlength, fun {c d} hm => ?_⟩
  obtain ⟨hc, hd⟩ := List.of_mem_zip hm
  obtain ⟨row, hrow, hreads⟩ := Store.exists_row_of_all hall hc
  obtain ⟨h, hh, rfl⟩ := List.mem_map.mp hd
  obtain ⟨own, hown⟩ := hs.mirrored h hh
  -- the row that was read is the contact's own, for it has its address
  have hsame : some row.address = some own.address :=
    (Row.address_of_contact hreads).symm.trans ((haddress hm).trans hown.address)
  obtain rfl : row = own := List.inj_on_of_nodup_map hs.sound.unique hrow
    (mem_of_filed hown.filed hs.backed) (Option.some.inj hsame)
  exact hown.restores now c hreads

/-! ### What is done to contacts of the list -/

/-- What is done to some contacts of the list leaves list and table in step when each of them is
settled afterwards. -/
theorem sparing (hs : s.InStep store) {hs' : List Handle}
    {feeds : List (Handle × Option String)} (hspared : Sparing hs' feeds s t)
    (hlisted : ∀ h ∈ hs', h ∈ s.roster) (hsettled : ∀ h ∈ hs', (t.affairs h).Settled) :
    ∃ store', t.InStep store' := by
  obtain ⟨store', hstore', hst⟩ := hspared.exists_store hs.backed
  have hmirrored : ∀ h ∈ t.roster, ∃ row, (t.affairs h).Mirrored row := fun h hm => by
    have hh := hspared.roster.subset hm
    by_cases hn : h ∈ hs'
    · rcases hsettled h hn with ⟨_, hrow⟩ | ⟨hnone, _⟩
      · exact hrow
      · exact absurd hm (List.count_eq_zero.mp hnone)
    · rw [hspared.affairs hn fun i hi ha =>
        hn (eq_of_address hs.distinct (hlisted i hi) hh ha ▸ hi)]
      exact hs.mirrored h hh
  refine ⟨store', fun h hm => ?_, hstore', hst.isOpen.trans hs.isOpen, hst.sound hs.sound, ?_,
    hmirrored⟩
  · rw [hspared.size]
    exact hs.known h (hspared.roster.subset hm)
  · -- list and table have lost the same of what they had in common
    have haddress :
        t.contacts.map Contact.address = t.roster.map fun h => (s.contact h).address := by
      rw [contacts, List.map_map]
      exact List.map_congr_left fun h _ => hspared.address h
    have hdistinct := hs.distinct
    have hrows := hst.addresses.map some
    rw [List.map_map, List.map_map] at hrows
    have hrows : (store'.rows.map fun row => some row.address).Sublist
        (s.contacts.map Contact.address) := hs.aligned ▸ hrows
    rw [contacts, List.map_map] at hdistinct hrows
    have hroster := hspared.roster.map fun h => (s.contact h).address
    rw [haddress]
    refine (hdistinct.perm_iff_eq_of_sublist hroster hrows).mp
      ((List.perm_ext_iff_of_nodup (hdistinct.sublist hroster) (hdistinct.sublist hrows)).mpr
        fun address => ?_)
    simp only [List.mem_map]
    constructor
    · rintro ⟨h, hm, rfl⟩
      exact (mem_roster_iff_of_sparing hspared hsettled hmirrored hstore'
        (hspared.roster.subset hm)).mp hm
    · rintro ⟨row, hrow, rfl⟩
      obtain ⟨h, hh, hown⟩ := List.mem_map.mp (hrows.subset (List.mem_map_of_mem hrow))
      exact ⟨h, (mem_roster_iff_of_sparing hspared hsettled hmirrored hstore' hh).mpr
        ⟨row, hrow, hown.symm⟩, hown⟩

theorem settled (hs : s.InStep store) (w : Outside) {act : Act} (hplain : act.Plain)
    (hlisted : ∀ h ∈ act.about s, h ∈ s.roster)
    (hfit : ∀ h ∈ act.about s, ∀ feed, act.finds w s h = some (.ok feed) → feed.Fit (s.contact h))
    {h : Handle} (hh : h ∈ act.about s) : ((exec (act.run w) s).2.affairs h).Settled := by
  have hm := hlisted h hh
  have hone := hs.listed_eq_one hm
  obtain ⟨row, hrow⟩ := hs.mirrored h hm
  by_cases hseeks : act.Seeks
  · obtain ⟨n, hafter⟩ := affairs_act hs.distinct w hseeks hlisted hm
    rw [hafter]
    cases hfound : act.finds w s h with
    | none => exact .inl ⟨hone, row, hrow⟩
    | some found =>
      exact hrow.look hone (fun feed hfeed => hfit h hh feed (hfeed ▸ hfound)) _
  · have hset (p : Presence) : ((exec (setPresence h p) s).2.affairs h).Settled := by
      obtain ⟨t, _, hrun, haffairs, _⟩ := affairs_setPresence h p s
      rw [hrun, haffairs]
      exact .inl ⟨((s.affairs h).listed_setPresence p).trans hone, hrow.setPresence p⟩
    cases act with
    | unsubscribe i =>
      obtain rfl := List.mem_singleton.mp hh
      rw [Act.run, affairs_unsubscribe]
      exact hrow.remove hone
    | setPresence i p =>
      obtain rfl := List.mem_singleton.mp hh
      exact hset p
    | goOffline i =>
      obtain rfl := List.mem_singleton.mp hh
      rw [Act.run, exec_discard]
      unfold goOffline
      rw [exec_bind, exec_contactOf]
      dsimp only
      split
      · exact .inl ⟨hone, row, hrow⟩
      · have hend : Keeps (·.affairs h) (pure true : Engine Bool) := .pure _
        rw [Keeps.after (fun _ => hend) (setPresence h .offline) s]
        exact hset .offline
    | propertyChanged i property old new =>
      obtain rfl := List.mem_singleton.mp hh
      have htold : ∀ _ : Unit, Keeps (·.affairs h) (do
          tell w .properties h (.changed (← contactOf h) property old new)) :=
        fun _ => .bind (fun _ => rfl) fun _ => keeps_affairs_tell w _ h _
      obtain ⟨_, hsave, haffairs⟩ := affairs_save h s
      rw [Act.run, propertyChanged, Keeps.after htold (save h) s, hsave, haffairs]
      exact .inl ⟨(s.affairs h).listed_save.trans hone, hrow.toFiled.save hrow.storable⟩
    | addListener | removeListener => cases hh
    | check | sweep | refresh | send | reportGone => exact absurd trivial hseeks
    | _ => exact hplain.elim

/-! ### What comes into the list -/

theorem load (hs : s.InStep store) (w : Outside) : (exec (load w) s).2.InStep store := by
  rw [exec_load, hs.backed]
  dsimp only
  split
  · exact hs
  · next cs hall =>
    have hnone : cs.filter (fun c => !s.lists c.address) = [] :=
      List.filter_eq_nil_iff.mpr fun c hc => by
        have hm : c.address ∈ s.contacts.map Contact.address := by
          rw [hs.aligned, ← Store.addresses_of_all hall]
          exact List.mem_map_of_mem hc
        rw [mem_addresses_iff.mp hm]
        exact Bool.false_ne_true
    rw [hnone]
    exact hs.noting _

theorem of_load (hempty : s.roster = []) (hstore : s.store = some store)
    (hstocked : store.Stocked) (w : Outside) : (exec (Newsroom.load w) s).2.InStep store := by
  obtain ⟨cs, hall⟩ := hstocked.sound.exists_all hstocked.isOpen w.now
  have hnew : cs.filter (fun c => !s.lists c.address) = cs :=
    List.filter_eq_self.mpr fun c _ => by
      rw [lists, contacts, hempty]
      rfl
  have hgrown : Grown cs s (s.enlistingAll cs) := grown_enlistingAll cs fun h hm => by
    rw [hempty] at hm
    cases hm
  have hcontacts : (s.enlistingAll cs).contacts = cs := by
    rw [hgrown.contacts, contacts, hempty]
    rfl
  have hbacked := hgrown.store.trans hstore
  have hloaded : (s.enlistingAll cs).InStep store := {
    known := hgrown.known
    backed := hbacked
    isOpen := hstocked.isOpen
    sound := hstocked.sound
    aligned := by
      rw [hcontacts]
      exact Store.addresses_of_all hall
    mirrored := fun h hh => by
      have hm : (s.enlistingAll cs).contact h ∈ (s.enlistingAll cs).contacts :=
        List.mem_map_of_mem hh
      rw [hcontacts] at hm
      obtain ⟨row, hrow, hreads⟩ := Store.exists_row_of_all hall hm
      have hkept := hstocked.kept row hrow
      exact ⟨row, Affairs.mirrored_of_reads
        (filed_of_mem hbacked hstocked.isOpen hstocked.sound hrow (Row.address_of_contact hreads))
        hreads (hkept.contact_eq _) hkept.persistent hkept.address⟩ }
  rw [exec_load, hstore]
  simp only [hall, hnew]
  exact hloaded.noting _

theorem enlisting (hs : s.InStep store) {added : Store} {row : Row} {c : Contact} {now : Moment}
    (hrows : added.rows = store.rows ++ [row]) (hopen : added.isOpen = true) (hsound : added.Sound)
    (hkept : row.Kept) (hreads : row.contact now = .ok c) :
    ({ s with store := some added }.enlisting c).InStep added := by
  let stored : Newsroom := { s with store := some added }
  have hgrown : Grown [c] stored (stored.enlisting c) := grown_enlistingAll [c] hs.known
  have hbacked : (stored.enlisting c).store = some added := hgrown.store
  have hfiled {h : Handle} {own : Row} (hm : own ∈ added.rows)
      (ha : ((stored.enlisting c).contact h).address = some own.address) :=
    filed_of_mem hbacked hopen hsound hm ha
  refine ⟨hgrown.known, hbacked, hopen, hsound, ?_, fun h hh => ?_⟩
  · have hcontacts : (stored.enlisting c).contacts = s.contacts ++ [c] := hgrown.contacts
    rw [hcontacts, hrows, List.map_append, List.map_append, hs.aligned, List.map_singleton,
      List.map_singleton, Row.address_of_contact hreads]
  · rcases List.mem_append.mp hh with hh | hh
    · obtain ⟨own, hown⟩ := hs.mirrored h hh
      have hcontact : (stored.enlisting c).contact h = s.contact h :=
        hgrown.contact h (hs.known h hh)
      have hm : own ∈ added.rows := by
        rw [hrows]
        exact List.mem_append_left _ (mem_of_filed hown.filed hs.backed)
      exact ⟨own, hown.congr hcontact
        ((hfiled hm ((congrArg Contact.address hcontact).trans hown.address)).trans
          hown.filed.symm)⟩
    · obtain rfl := List.mem_singleton.mp hh
      have hcontact : (stored.enlisting c).contact s.size = c := contact_withContact s _ c
      have hm : row ∈ added.rows := by
        rw [hrows]
        exact List.mem_append_right _ (List.mem_singleton_self row)
      have hown : row.contact now = .ok ((stored.enlisting c).contact s.size) := by
        rw [hcontact]
        exact hreads
      exact ⟨row, Affairs.mirrored_of_reads (hfiled hm (Row.address_of_contact hown)) hown
        (hkept.contact_eq _) hkept.persistent hkept.address⟩

theorem subscribe (hs : s.InStep store) (w : Outside) (address : String) {name : Value}
    (hname : name = .null ∨ ∃ text, name = .text text) (hnow : w.now.Legible) :
    ∃ store', (exec (subscribe w (some address) name) s).2.InStep store' := by
  rw [exec_subscribe]
  split
  · exact ⟨store, hs⟩
  · rw [hs.backed]
    dsimp only
    split
    · exact ⟨store, hs⟩
    · next c added hadd =>
      have hsound := hs.sound.add hadd
      obtain ⟨own, shown, created, hown, htext, hshown, hcreated, hopen, _, rfl, hadded⟩ :=
        Store.add_eq_ok hadd
      obtain rfl : address = own := Option.some.inj hown
      obtain rfl : w.now = created := Option.some.inj hcreated
      let fresh := Contact.fresh (some address) name w.now
      have hlasting : fresh.Lasting := Contact.lasting_fresh address hname w.now
      have hfresh : fresh.name = .text shown := hlasting.name_eq_of_cell hshown
      have hreads : (Store.rowOf (store.lastId + 1) address shown w.now fresh).contact w.now
          = .ok { fresh with id := some (store.lastId + 1) } := by
        rw [Store.contact_rowOf, hnow.asRead_eq, ← hfresh]
        rfl
      have hkept : (Store.rowOf (store.lastId + 1) address shown w.now fresh).Kept :=
        ⟨rfl, Moment.isEmpty_iso _, htext⟩
      have hrows : added.rows
          = store.rows ++ [Store.rowOf (store.lastId + 1) address shown w.now fresh] :=
        congrArg Store.rows hadded
      have hopened : added.isOpen = true := (congrArg Store.isOpen hadded).trans hopen
      exact ⟨added, (hs.enlisting hrows hopened hsound hkept hreads).noting _⟩

end InStep

end Newsroom

end Newswire

import Newswire.Proofs.Consent
import Newswire.Proofs.Directory
import Newswire.Proofs.Restart.Equivalence

/-!
The list and the table, which are kept apart and are filled and emptied by different operations,
agree in this: each contact in the list has one row, which has its address and its id. No address
and no id is there twice, and what is subscribed to or loaded is what neither of them has yet.
-/

namespace Newswire

/-- An open table that can be read, in which each address is once and ids are counted up. -/
structure Store.Ready (s : Store) : Prop extends s.Sound where
  isOpen : s.isOpen = true
  ascending : (s.rows.map Row.id).Pairwise (· < ·)
  bounded : ∀ row ∈ s.rows, row.id ≤ s.lastId

/-- It is done with the list and the store as they are: none is opened, closed or begun anew. -/
def Act.InPlace : Act → Prop
  | connect | close | anew _ | restart _ => False
  | _ => True

namespace Store

variable {s t : Store} {c d : Contact} {own : List (Option String)} {row other : Row}

theorem map_id_stubs (s : Store) : s.stubs.map Row.id = s.rows.map Row.id :=
  List.map_map

theorem exists_stub {stub : Row} (h : stub ∈ s.stubs) : ∃ row ∈ s.rows, row.stub = stub :=
  List.mem_map.mp h

namespace Ready

theorem eq_of_id (h : s.Ready) (hrow : row ∈ s.rows) (hother : other ∈ s.rows)
    (hid : row.id = other.id) : row = other :=
  List.inj_on_of_nodup_map (h.ascending.imp Nat.ne_of_lt) hrow hother hid

theorem lacking (h : s.Ready) (hlost : Lacking own s t) (hsound : t.Sound) : t.Ready := by
  have hids : (t.rows.map Row.id).Sublist (s.rows.map Row.id) := by
    rw [← map_id_stubs, ← map_id_stubs, hlost.stubs]
    exact List.filter_sublist.map _
  refine { hsound with isOpen := ?_, ascending := ?_, bounded := fun row hrow => ?_ }
  · rw [hlost.isOpen]
    exact h.isOpen
  · exact h.ascending.sublist hids
  · obtain ⟨old, hold, hid⟩ := List.mem_map.mp (hids.subset (List.mem_map_of_mem hrow))
    rw [hlost.lastId, ← hid]
    exact h.bounded old hold

theorem add (h : s.Ready) (hadd : s.add c = .ok (d, t)) : t.Ready := by
  obtain ⟨address, name, created, _, _, _, _, _, _, _, rfl⟩ := add_eq_ok hadd
  refine { h.toSound.add hadd with
    isOpen := h.isOpen, ascending := ?_, bounded := fun row hrow => ?_ }
  · rw [List.map_append, List.pairwise_append]
    refine ⟨h.ascending, List.pairwise_singleton .., fun a ha b hb => ?_⟩
    obtain ⟨row, hrow, rfl⟩ := List.mem_map.mp ha
    rw [List.map_singleton, List.mem_singleton] at hb
    rw [hb]
    exact Nat.lt_succ_of_le (h.bounded row hrow)
  · rcases List.mem_append.mp hrow with hrow | hrow
    · exact Nat.le_succ_of_le (h.bounded row hrow)
    · rw [List.mem_singleton.mp hrow]
      exact Nat.le_refl _

end Ready

theorem forall₂_filter_of_all {now : Moment} {cs : List Contact} (h : s.all now = .ok cs)
    (wanted : Option String → Bool) :
    List.Forall₂ (fun row c => row.contact now = .ok c)
      (s.rows.filter fun row => wanted (some row.address))
      (cs.filter fun c => wanted c.address) := by
  refine List.rel_filter (fun row c hread => ?_) (all_eq_ok_iff.mp h).2
  show wanted (some row.address) = true ↔ wanted c.address = true
  rw [Row.address_of_contact hread]

end Store

/-- The texts of a subscription: its address, and the name that is wished for if one is. -/
def Contact.wished (address : String) (name : Value) : List String :=
  address :: name.text?.toList

theorem Contact.halves_fresh (address : String) {name : Value}
    (hname : name = .null ∨ ∃ text, name = .text text) (now : Moment) :
    (Request.add (Contact.fresh (some address) name now)).texts.findSome? Text.loneHalves?
      = (Contact.wished address name).findSome? Text.loneHalves? := by
  rcases hname with rfl | ⟨text, rfl⟩
  · show [address, address].findSome? Text.loneHalves? = [address].findSome? Text.loneHalves?
    simp only [List.findSome?_cons, List.findSome?_nil]
    cases Text.loneHalves? address <;> rfl
  · by_cases htruthy : (Value.text text).truthy = true
    · have hown : (Contact.fresh (some address) (.text text) now).name = .text text :=
        if_pos htruthy
      have htexts : (Request.add (Contact.fresh (some address) (.text text) now)).texts
          = address :: ((Contact.fresh (some address) (.text text) now).name.text?.toList ++ []) :=
        rfl
      rw [htexts, hown]
      rfl
    · have hempty : text = "" := by
        rw [Value.truthy, Bool.not_eq_true, Bool.not_eq_false'] at htruthy
        exact String.isEmpty_iff.mp htruthy
      subst hempty
      show [address, address].findSome? Text.loneHalves? = [address, ""].findSome? Text.loneHalves?
      have hnone : Text.loneHalves? "" = none := by decide
      simp only [List.findSome?_cons, List.findSome?_nil, hnone]
      cases Text.loneHalves? address <;> rfl

namespace Newsroom

variable {s t : Newsroom} {table : Store} {w : Outside}

/-- A row of the table has the address and the id of the contact. -/
def Filed (table : Store) (c : Contact) : Prop :=
  ∃ stub ∈ table.stubs, some stub.address = c.address ∧ some stub.id = c.id

/-- Each contact in the list is filed in the table. -/
structure Represents (s : Newsroom) (table : Store) : Prop where
  store : s.store = some table
  ready : table.Ready
  orderly : s.Orderly
  filed : ∀ c ∈ s.contacts, Filed table c

namespace Represents

theorem sole_row (hs : s.Represents table) {c : Contact} (hc : c ∈ s.contacts) :
    ∃ row, (table.only c.address).rows = [row] ∧ some row.id = c.id := by
  obtain ⟨stub, hstub, haddress, hid⟩ := hs.filed c hc
  obtain ⟨row, hrow, rfl⟩ := Store.exists_stub hstub
  refine ⟨row, ?_, hid⟩
  rw [← haddress]
  exact congrArg Store.rows (hs.ready.toSound.only_eq hrow)

theorem nodup_ids (hs : s.Represents table) : (s.contacts.map Contact.id).Nodup := by
  have hapart : s.contacts.Pairwise fun c d => c.address ≠ d.address :=
    List.pairwise_map.mp hs.orderly.distinct
  refine List.pairwise_map.mpr (hapart.imp_of_mem fun {c d} hc hd hne heq => hne ?_)
  obtain ⟨stub, hstub, haddress, hid⟩ := hs.filed c hc
  obtain ⟨other, hother, haddress', hid'⟩ := hs.filed d hd
  obtain ⟨row, hrow, rfl⟩ := Store.exists_stub hstub
  obtain ⟨row', hrow', rfl⟩ := Store.exists_stub hother
  have hsame : row = row' :=
    hs.ready.eq_of_id hrow hrow' (Option.some.inj (hid.trans (heq.trans hid'.symm)))
  rw [← haddress, ← haddress', hsame]

/-! ### Contacts that are there -/

theorem without {gone : List Handle} {left : Store} (hs : s.Represents table)
    (h : Without gone s t) (hleft : t.store = some left) (hready : left.Ready)
    (horderly : t.Orderly) : t.Represents left := by
  obtain ⟨own, hown, hlost⟩ := h.exists_store hs.store
  obtain rfl : own = left := Option.some.inj (hown.symm.trans hleft)
  refine ⟨hleft, hready, horderly, fun c hc => ?_⟩
  obtain ⟨i, hi, rfl⟩ := List.mem_map.mp hc
  rw [h.roster, List.mem_filter, decide_eq_true_eq] at hi
  obtain ⟨stub, hstub, haddress, hid⟩ := hs.filed (s.contact i) (List.mem_map_of_mem hi.1)
  have hsame := h.identity i
  have hother : some stub.address ∉ s.leaving gone := fun hm => by
    obtain ⟨j, hj, heq⟩ := List.mem_map.mp hm
    rw [List.mem_filter, decide_eq_true_eq] at hj
    have hij : j = i := eq_of_address hs.orderly.distinct hj.1 hi.1 (heq.trans haddress)
    exact hi.2 (hij ▸ hj.2)
  refine ⟨stub, ?_, ?_, ?_⟩
  · rw [hlost.stubs, List.mem_filter, Store.stays, decide_eq_true hother]
    exact ⟨hstub, rfl⟩
  · rw [h.address i]
    exact haddress
  · exact hid.trans (congrArg (·.2.2.2) hsame).symm

theorem plain (hs : s.Represents table) {act : Act} (hact : act.Plain)
    (hknown : ∀ h ∈ act.about s, h < s.size) : ∃ left, (s.pass ⟨w, act⟩).Represents left := by
  have hnodup : s.roster.Nodup := List.Nodup.of_map _ hs.orderly.addresses
  obtain ⟨gone, hgone⟩ := exists_without hnodup w hact
  obtain ⟨feeds, hspared⟩ := sparing_act w hact s
  obtain ⟨left, hleft, hrest⟩ := hspared.exists_store hs.store
  obtain ⟨own, hown, hlost⟩ := hgone.exists_store hs.store
  obtain rfl : own = left := Option.some.inj (hown.symm.trans hleft)
  exact ⟨own, hs.without hgone hleft (hs.ready.lacking hlost (hrest.sound hs.ready.toSound))
    (hs.orderly.act w hknown)⟩

/-! ### New contacts -/

/-- Contacts that come are filed like those that were there. -/
theorem joined {cs : List Contact} {held : Store} (hs : ∀ c ∈ s.contacts, Filed held c)
    (hcs : ∀ c ∈ cs, Filed held c) (hstore : t.store = some held) (hready : held.Ready)
    (horderly : t.Orderly) (hcontacts : t.contacts = s.contacts ++ cs) : t.Represents held where
  store := hstore
  ready := hready
  orderly := horderly
  filed c hc := by
    rw [hcontacts] at hc
    exact (List.mem_append.mp hc).elim (hs c) (hcs c)

theorem filed_of_all {now : Moment} {stored : List Contact} (hall : table.all now = .ok stored)
    {c : Contact} (hc : c ∈ stored) : Filed table c := by
  obtain ⟨row, hrow, hread⟩ := Store.exists_row_of_all hall hc
  obtain ⟨_, _, _, _, _, _, rfl⟩ := Row.contact_eq_ok_iff.mp hread
  exact ⟨row.stub, List.mem_map_of_mem hrow, rfl, rfl⟩

theorem exists_exec_load (hs : s.Represents table) (w : Outside) :
    ∃ (stored : List Contact) (notes : List Journal.Note), table.all w.now = .ok stored ∧
      exec (Newsroom.load w) s = (.ok stored.length,
        (s.enlistingAll (stored.filter fun c => !s.lists c.address)).noting notes) := by
  obtain ⟨stored, hall⟩ := hs.ready.toSound.exists_all hs.ready.isOpen w.now
  refine ⟨stored, [⟨.info, .roster, "Loaded " ++ toString stored.length ++ " feed contacts", none⟩],
    hall, ?_⟩
  rw [exec_load, hs.store]
  dsimp only
  rw [hall]

theorem load (hs : s.Represents table) (w : Outside) :
    (exec (Newsroom.load w) s).2.Represents table := by
  have horderly := hs.orderly.load w
  obtain ⟨stored, notes, hall, hload⟩ := hs.exists_exec_load w
  rw [hload] at horderly ⊢
  let fresh := stored.filter fun c => !s.lists c.address
  have hgrown : Grown fresh s (s.enlistingAll fresh) := grown_enlistingAll fresh hs.orderly.known
  exact joined hs.filed (fun c hc => filed_of_all hall (List.mem_filter.mp hc).1)
    (hgrown.store.trans hs.store) hs.ready horderly hgrown.contacts

theorem loads (hs : s.Represents table) (w : Outside) :
    let r := exec (Newsroom.load w) s
    r.1 = .ok table.rows.length ∧ r.2.store = some table ∧ s.roster <+: r.2.roster ∧
      (∀ h < s.size, r.2.contact h = s.contact h) ∧
      (table.rows.map Row.id).Pairwise (· < ·) ∧
      ∃ fresh, r.2.contacts = s.contacts ++ fresh ∧
        List.Forall₂ (fun row c => row.contact w.now = .ok c)
          (table.rows.filter fun row => !s.lists (some row.address)) fresh := by
  obtain ⟨stored, notes, hall, hrun⟩ := hs.exists_exec_load w
  let fresh := stored.filter fun c => !s.lists c.address
  have hgrown : Grown fresh s (s.enlistingAll fresh) := grown_enlistingAll fresh hs.orderly.known
  have hread := Store.forall₂_filter_of_all hall fun address => !s.lists address
  have hlength : table.rows.length = stored.length := (Store.all_eq_ok_iff.mp hall).2.length_eq
  intro r
  have hr : r = _ := hrun
  rw [hr, hlength]
  exact ⟨rfl, hgrown.store.trans hs.store, prefix_roster_enlistingAll fresh s, hgrown.contact,
    hs.ready.ascending, fresh, hgrown.contacts, hread⟩

theorem enlisted {c d : Contact} {held : Store} {notes : List Journal.Note}
    (hs : s.Represents table) (hadd : table.add c = .ok (d, held))
    (horderly : (({ s with store := some held }.enlisting d).noting notes).Orderly) :
    (({ s with store := some held }.enlisting d).noting notes).Represents held := by
  obtain ⟨own, shown, created, haddress, _, _, _, _, _, rfl, hheld⟩ := Store.add_eq_ok hadd
  let row := Store.rowOf (table.lastId + 1) own shown created c
  have hstubs : held.stubs = table.stubs ++ [row.stub] := by
    rw [hheld]
    exact List.map_append
  let u : Newsroom := { s with store := some held }
  let e : Contact := { c with id := some (table.lastId + 1) }
  have hgrown : Grown [e] u (u.enlisting e) := grown_enlistingAll [e] hs.orderly.known
  refine joined (fun old hold => ?_) (fun new hnew => ?_) rfl (hs.ready.add hadd) horderly
    (hgrown.contacts : _ = s.contacts ++ [e])
  · obtain ⟨stub, hstub, hfiled⟩ := hs.filed old hold
    exact ⟨stub, hstubs ▸ List.mem_append_left _ hstub, hfiled⟩
  · rw [List.mem_singleton.mp hnew]
    exact ⟨row.stub, hstubs ▸ List.mem_append_right _ (List.mem_singleton_self _), haddress.symm,
      rfl⟩

theorem subscribe (hs : s.Represents table) (w : Outside) (address : Option String)
    (name : Value) : ∃ held, (exec (subscribe w address name) s).2.Represents held := by
  have horderly := hs.orderly.subscribe w address name
  rw [exec_subscribe] at horderly ⊢
  split
  · exact ⟨table, hs⟩
  · next hlists =>
    rw [if_neg hlists, hs.store] at horderly
    rw [hs.store]
    dsimp only at horderly ⊢
    cases hadd : table.add (Contact.fresh address name w.now) with
    | error fault => exact ⟨table, hs⟩
    | ok added =>
      rw [hadd] at horderly
      exact ⟨added.2, hs.enlisted hadd horderly⟩

theorem subscribe_cases (hs : s.Represents table) (w : Outside) (address : String)
    {name : Value} (hname : name = .null ∨ ∃ text, name = .text text) :
    (s.lists (some address) = false ∧ table.holds (some address) = false ∧
        (∀ text ∈ Contact.wished address name, Text.loneHalves? text = none) ∧
        ∃ h t, exec (Newsroom.subscribe w (some address) name) s = (.ok h, t)) ∨
      ((s.lists (some address) = true ∨ table.holds (some address) = true ∧
          ∀ text ∈ Contact.wished address name, Text.loneHalves? text = none) ∧
        exec (Newsroom.subscribe w (some address) name) s
          = (.error (.alreadySubscribed (some address)), s)) ∨
      s.lists (some address) = false ∧
        ∃ text ∈ Contact.wished address name, ∃ why, Text.loneHalves? text = some why ∧
          exec (Newsroom.subscribe w (some address) name) s = (.error (.unwritable why), s) := by
  rw [exec_subscribe]
  by_cases hlists : s.lists (some address) = true
  · rw [if_pos hlists]
    exact .inr (.inl ⟨.inl hlists, rfl⟩)
  · have hlasting := Contact.lasting_fresh address hname w.now
    obtain ⟨title, htitle⟩ := hlasting.name
    have hadd := Store.add_eq hs.ready.isOpen rfl hlasting htitle rfl
    rw [if_neg hlists, hs.store]
    dsimp only
    rw [hadd, unlessRefused, Contact.halves_fresh address hname]
    cases hhalves : (Contact.wished address name).findSome? Text.loneHalves? with
    | some why =>
      obtain ⟨text, htext, hwhy⟩ := List.exists_of_findSome?_eq_some hhalves
      exact .inr (.inr ⟨Bool.eq_false_iff.mpr hlists, text, htext, why, hwhy, rfl⟩)
    | none =>
      have hfree := List.findSome?_eq_none_iff.mp hhalves
      dsimp only
      have haddress : (Contact.fresh (some address) name w.now).address = some address := rfl
      rw [haddress]
      by_cases hheld : table.holds (some address) = true
      · rw [if_pos hheld]
        exact .inr (.inl ⟨.inr ⟨hheld, hfree⟩, rfl⟩)
      · rw [if_neg hheld]
        exact .inl ⟨Bool.eq_false_iff.mpr hlists, Bool.eq_false_iff.mpr hheld, hfree, _, _, rfl⟩

/-- Whoever is refused leaves everything as it was, and was refused for one of two reasons: if the
address is in the list, that is the reason, and else the texts are looked at before the table. -/
theorem refused_iff (hs : s.Represents table) (w : Outside) (address : String) {name : Value}
    (hname : name = .null ∨ ∃ text, name = .text text) :
    let r := exec (Newsroom.subscribe w (some address) name) s
    ((∃ fault, r.1 = .error fault) ↔
      s.lists (some address) = true ∨ table.holds (some address) = true ∨
        ∃ text ∈ Contact.wished address name, Text.loneHalves? text ≠ none) ∧
    ∀ fault, r.1 = .error fault → r.2 = s ∧
      (fault = .alreadySubscribed (some address) ∨
        ∃ text ∈ Contact.wished address name, ∃ why,
          Text.loneHalves? text = some why ∧ fault = .unwritable why) ∧
      ((∃ why, fault = .unwritable why) ↔ s.lists (some address) = false ∧
        ∃ text ∈ Contact.wished address name, Text.loneHalves? text ≠ none) := by
  rcases hs.subscribe_cases w address hname with
    ⟨hlists, hheld, hfree, h, t, hrun⟩ | ⟨hthere, hrun⟩ | ⟨hlists, text, htext, why, hwhy, hrun⟩
  all_goals
    intro r
    have hr : r = _ := hrun
    rw [hr]
  · refine ⟨⟨fun ⟨_, hfault⟩ => (nomatch hfault), ?_⟩, fun _ hfault => nomatch hfault⟩
    rintro (hno | hno | ⟨text, htext, hno⟩)
    · exact absurd hno (Bool.eq_false_iff.mp hlists)
    · exact absurd hno (Bool.eq_false_iff.mp hheld)
    · exact absurd (hfree text htext) hno
  · constructor
    · exact ⟨fun _ => hthere.imp_right fun hheld => .inl hheld.1, fun _ => ⟨_, rfl⟩⟩
    · intro fault hfault
      obtain rfl : Fault.alreadySubscribed (some address) = fault := Except.error.inj hfault
      refine ⟨rfl, .inl rfl, fun ⟨_, hwhy⟩ => (nomatch hwhy), fun ⟨hlists, text, htext, hbad⟩ => ?_⟩
      rcases hthere with hthere | ⟨_, hfree⟩
      · exact absurd hthere (Bool.eq_false_iff.mp hlists)
      · exact absurd (hfree text htext) hbad
  · have hbad : Text.loneHalves? text ≠ none := fun hnone => nomatch hwhy.symm.trans hnone
    constructor
    · exact ⟨fun _ => .inr (.inr ⟨text, htext, hbad⟩), fun _ => ⟨_, rfl⟩⟩
    · intro fault hfault
      obtain rfl : Fault.unwritable why = fault := Except.error.inj hfault
      exact ⟨rfl, .inr ⟨text, htext, why, hwhy, rfl⟩,
        fun _ => ⟨hlists, text, htext, hbad⟩, fun _ => ⟨why, rfl⟩⟩

theorem register (hs : s.Represents table) (w : Outside) (c : Contact) :
    (s.pass ⟨w, .register c⟩).Represents table where
  store := hs.store
  ready := hs.ready
  orderly := hs.orderly.act w fun _ hm => nomatch hm
  filed d hd := by
    obtain ⟨h, hh, rfl⟩ := List.mem_map.mp hd
    have hsame : (s.registering c).contact h = s.contact h :=
      contact_withContact_of_ne s c (Nat.ne_of_lt (hs.orderly.known h hh))
    show Filed table ((s.registering c).contact h)
    rw [hsame]
    exact hs.filed _ (List.mem_map_of_mem hh)

theorem pass (hs : s.Represents table) {turn : Turn} (hplace : turn.act.InPlace)
    (hknown : ∀ h ∈ turn.act.about s, h < s.size) : ∃ held, (s.pass turn).Represents held := by
  obtain ⟨w, act⟩ := turn
  by_cases hplain : act.Plain
  · exact hs.plain hplain hknown
  · unfold Newsroom.pass
    cases act with
    | load =>
      simp only [Act.run, exec_discard]
      exact ⟨table, hs.load w⟩
    | subscribe address name =>
      simp only [Act.run, exec_discard]
      exact hs.subscribe w address name
    | register c => exact ⟨table, hs.register w c⟩
    | connect | close | anew | restart => exact hplace.elim
    | _ => exact absurd trivial hplain

end Represents

/-- What is done with the contacts that are known, and neither opens nor closes anything. -/
def Busy (s : Newsroom) (turn : Turn) : Prop :=
  turn.act.InPlace ∧ ∀ h ∈ turn.act.about s, h < s.size

theorem Represents.course (hs : s.Represents table) {turns : List Turn}
    (hturns : s.Throughout Busy turns) : ∃ held, (s.course turns).Represents held := by
  induction turns generalizing s table with
  | nil => exact ⟨table, hs⟩
  | cons turn rest ih =>
    obtain ⟨⟨hplace, hknown⟩, hrest⟩ := hturns
    obtain ⟨held, hheld⟩ := hs.pass hplace hknown
    exact ih hheld hrest

/-- At any point of a run that begins with an empty list over an open table that can be read: no
address and no id is twice in the list, and each contact in it has one row, with its address and its
id. Someone who subscribes is refused if and only if the address is in the list or in the table, or
the address or the name cannot be written in bytes, and then nothing changes; it is for the latter
whenever the address is not in the list, be it in the table or not. And loading puts after the
contacts that are in the list, and stay as they are, those that are read of the rows whose addresses
are not, in the order of their ids. -/
theorem one_row_for_each_contact {store : Store} (hready : store.Ready) (clockwork : Clockwork)
    {turns : List Turn} (hturns : (empty (some store) clockwork).Throughout Busy turns) :
    let s := (empty (some store) clockwork).course turns
    ∃ table, s.store = some table ∧
      ((s.contacts.map Contact.address).Nodup ∧ (s.contacts.map Contact.id).Nodup ∧
        ∀ c ∈ s.contacts, ∃ row, (table.only c.address).rows = [row] ∧ some row.id = c.id) ∧
      (∀ (w : Outside) (address : String) (name : Value),
        (name = .null ∨ ∃ text, name = .text text) →
          let r := exec (subscribe w (some address) name) s
          ((∃ fault, r.1 = .error fault) ↔
            s.lists (some address) = true ∨ table.holds (some address) = true ∨
              ∃ text ∈ Contact.wished address name, Text.loneHalves? text ≠ none) ∧
          ∀ fault, r.1 = .error fault → r.2 = s ∧
            (fault = .alreadySubscribed (some address) ∨
              ∃ text ∈ Contact.wished address name, ∃ why,
                Text.loneHalves? text = some why ∧ fault = .unwritable why) ∧
            ((∃ why, fault = .unwritable why) ↔ s.lists (some address) = false ∧
              ∃ text ∈ Contact.wished address name, Text.loneHalves? text ≠ none)) ∧
      ∀ w : Outside,
        let r := exec (load w) s
        r.1 = .ok table.rows.length ∧ r.2.store = some table ∧ s.roster <+: r.2.roster ∧
          (∀ h < s.size, r.2.contact h = s.contact h) ∧
          (table.rows.map Row.id).Pairwise (· < ·) ∧
          ∃ fresh, r.2.contacts = s.contacts ++ fresh ∧
            List.Forall₂ (fun row c => row.contact w.now = .ok c)
              (table.rows.filter fun row => !s.lists (some row.address)) fresh := by
  have hstart : (empty (some store) clockwork).Represents store := {
    store := rfl
    ready := hready
    orderly := Reachable.orderly (.start fun st hst => Option.some.inj hst ▸ hready.unique)
    filed := fun _ hc => nomatch hc }
  intro s
  obtain ⟨table, hs⟩ := hstart.course hturns
  refine ⟨table, hs.store, ⟨hs.orderly.distinct, hs.nodup_ids, ?_⟩, ?_, ?_⟩
  · exact fun c hc => hs.sole_row hc
  · exact fun w address name hname => hs.refused_iff w address hname
  · exact fun w => hs.loads w

/-- The row of a contact that someone subscribed to before. -/
def earlier : Row :=
  let now := (Outside.showing (.bare [])).now
  Store.rowOf 1 "a" "News" now (.fresh (some "a") (.text "News") now)

theorem ready_earlier : (⟨[earlier], 1, true⟩ : Store).Ready where
  unique := List.nodup_singleton _
  readable row hrow := by
    rw [List.mem_singleton.mp hrow]
    exact Store.readable_rowOf ..
  isOpen := rfl
  ascending := List.pairwise_singleton ..
  bounded row hrow := by
    rw [List.mem_singleton.mp hrow]
    exact Nat.le_refl 1

/-- A contact that was not loaded cannot be subscribed to a second time, and it is loaded after one
that was subscribed to meanwhile. -/
theorem earlier_comes_after_newcomer :
    let w := Outside.showing (.bare [])
    let s := (empty (some ⟨[earlier], 1, true⟩) bare.clockwork).course
      [⟨w, .subscribe (some "b") .null⟩]
    exec (subscribe w (some "a") .null) s = (.error (.alreadySubscribed (some "a")), s) ∧
      (exec (load w) s).2.contacts.map Contact.id = [some 2, some 1] := by
  intro w s
  have hturns : (empty (some ⟨[earlier], 1, true⟩) bare.clockwork).Throughout Busy
      [⟨w, .subscribe (some "b") .null⟩] := ⟨⟨trivial, fun _ hm => nomatch hm⟩, trivial⟩
  obtain ⟨table, hstore, _, hsubscribe, hload⟩ :=
    one_row_for_each_contact ready_earlier bare.clockwork hturns
  let newcomer := Store.rowOf 2 "b" "b" w.now (.fresh (some "b") .null w.now)
  have hstored : s.store = some ⟨[earlier, newcomer], 2, true⟩ := rfl
  obtain rfl : table = ⟨[earlier, newcomer], 2, true⟩ :=
    Option.some.inj (hstore.symm.trans hstored)
  obtain ⟨hrefused, hkept⟩ := hsubscribe w "a" .null (.inl rfl)
  obtain ⟨fault, hfault⟩ := hrefused.mpr (.inr (.inl rfl))
  obtain ⟨hsame, hreason, _⟩ := hkept fault hfault
  have hknown := hreason.resolve_right fun ⟨text, htext, why, hwhy, _⟩ => by
    have hnone : Text.loneHalves? "a" = none := by decide
    rw [List.mem_singleton.mp htext, hnone] at hwhy
    cases hwhy
  obtain ⟨_, _, _, _, _, fresh, hcontacts, hread⟩ := hload w
  have hread : List.Forall₂ (fun row c => row.contact w.now = .ok c) [earlier] fresh := hread
  have hloaded : fresh.map Contact.id = [some 1] := by
    cases hread with
    | cons hc hrest =>
      cases hrest
      cases (Store.contact_rowOf ..).symm.trans hc
      rfl
  refine ⟨Prod.ext (hknown ▸ hfault) hsame, ?_⟩
  rw [hcontacts, List.map_append, hloaded]
  rfl

/-- Someone who subscribes is refused, in some sense of it, if and only if the address is in the
list or in the table. -/
def RefusedIffThere (refused : Except Fault Handle → Option String → Prop) : Prop :=
  ∀ (store : Store) (clockwork : Clockwork) (turns : List Turn), store.Ready →
    (empty (some store) clockwork).Throughout Busy turns →
    let s := (empty (some store) clockwork).course turns
    ∀ table, s.store = some table → ∀ (w : Outside) (address : String) (name : Value),
      (name = .null ∨ ∃ text, name = .text text) →
      (refused (exec (subscribe w (some address) name) s).1 (some address) ↔
        s.lists (some address) = true ∨ table.holds (some address) = true)

/-- It is not so that someone who subscribes is refused if and only if the address is there, be it
in any way or because it is known: an address that cannot be written in bytes is nowhere, and a name
that cannot be keeps it from being found out that the address is in the table. -/
theorem refused_for_unwritable_texts :
    (¬ RefusedIffThere fun r _ => ∃ fault, r = .error fault) ∧
      ¬ RefusedIffThere fun r address => r = .error (.alreadySubscribed address) := by
  let w := Outside.showing (.bare [])
  constructor
  · intro hall
    have hiff := hall _ bare.clockwork [] ready_earlier trivial _ rfl w half .null (.inl rfl)
    have hfails := hiff.mp ⟨_, rfl⟩
    rcases hfails with hlists | hheld
    · cases hlists
    · exact absurd hheld (by decide)
  · intro hall
    have hiff := hall _ bare.clockwork [] ready_earlier trivial _ rfl w "a" (.text half)
      (.inr ⟨half, rfl⟩)
    have hknown := hiff.mpr (.inr rfl)
    cases hknown

end Newsroom

end Newswire

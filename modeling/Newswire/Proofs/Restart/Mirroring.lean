import Newswire.Proofs.Restart.Delivery

/-!
A contact and its row. Whatever becomes of a contact, it can be restored from its row when the row
was written last or when it could not be: the row is about the contact, and says what it is, unless
its name or its marker cannot be written in bytes. A contact that is removed leaves no row.
-/

namespace Newswire

namespace Contact

/-- Name and marker can be written in bytes. -/
def Writable (c : Contact) : Prop :=
  (∃ name, c.name.cell 1 = .ok (some name)) ∧
    ∀ m, c.marker = some m → textCell m.text = .ok m.text

/-- The contact stands for another one that it was restored from: it is the same one, and equal if
that one can be written in bytes. -/
def Restores (fresh own : Contact) : Prop :=
  fresh.identity = own.identity ∧ (own.Writable → fresh = own)

/-- The contact is stored, and what is stored of it is read back. -/
structure Storable (c : Contact) : Prop extends c.Lasting where
  persistent : c.persistent = true
  address : ∃ address, c.address = some address ∧ textCell address = .ok address

theorem Restores.refl (c : Contact) : c.Restores c :=
  ⟨rfl, fun _ => rfl⟩

theorem eq_of_restores {cs ds : List Contact} (h : List.Forall₂ Restores cs ds)
    (hw : ∀ d ∈ ds, d.Writable) : cs = ds := by
  induction h with
  | nil => rfl
  | cons hc _ ih =>
    rw [hc.2 (hw _ List.mem_cons_self), ih fun d hd => hw d (List.mem_cons_of_mem _ hd)]

theorem Storable.of_identity {c d : Contact} (hc : c.Storable) (hid : d.identity = c.identity)
    (hd : d.Lasting) : d.Storable where
  toLasting := hd
  persistent := (congrArg (·.2.1) hid).trans hc.persistent
  address := by
    obtain ⟨address, ha, htext⟩ := hc.address
    exact ⟨address, (congrArg Prod.fst hid).trans ha, htext⟩

theorem Storable.takes {c : Contact} (hc : c.Storable) (hw : c.Writable) {store : Store}
    (hopen : store.isOpen = true) : store.Takes c := by
  obtain ⟨⟨name, hname⟩, hmarker⟩ := hw
  obtain ⟨address, haddress, htext⟩ := hc.address
  refine ⟨hopen, ⟨_, hname, fun _ => rfl⟩, ⟨_, mapM_textCell_of_forall fun t ht => ?_⟩,
    ⟨_, mapM_textCell_of_forall fun t ht => ?_⟩⟩
  · obtain ⟨m, hm, rfl⟩ := Option.map_eq_some_iff.mp ht
    exact hmarker m hm
  · rw [haddress] at ht
    cases ht
    exact htext

end Contact

/-- The feed is fit to be taken in by the contact, and what would be remembered of it is read back
as it is. -/
structure Feed.Fit (feed : Feed) (c : Contact) : Prop where
  title : ∃ title, feed.title = .text title
  sound : feed.Sound c.marker
  dates : ∀ d ∈ feed.moments, d.Legible

namespace Affairs

variable {a : Affairs} {c : Contact} {feed : Feed}

/-- The store has one row on file of the contact, and it can be read at any time. -/
structure Filed (a : Affairs) (row : Row) : Prop where
  filed : a.filed = some ⟨[row], 0, true⟩
  address : a.contact.address = some row.address
  about : ∀ now, ∃ d, row.contact now = .ok d ∧ d.identity = a.contact.identity

/-- The contact can be restored from the row that the store has on file of it. -/
structure Mirrored (a : Affairs) (row : Row) : Prop extends a.Filed row where
  storable : a.contact.Storable
  restores : ∀ now d, row.contact now = .ok d → d.Restores a.contact

theorem Filed.withContact {row : Row} (h : a.Filed row) (hid : c.identity = a.contact.identity) :
    (a.withContact c).Filed row where
  filed := h.filed
  address := (congrArg Prod.fst hid).trans h.address
  about now := (h.about now).imp fun _ hd => ⟨hd.1, hd.2.trans hid.symm⟩

/-- After it was saved, or could not be, a contact can be restored. -/
theorem Filed.save {row : Row} (h : a.Filed row) (hc : a.contact.Storable) :
    ∃ row', a.save.2.Mirrored row' := by
  rcases save_of_filed h.filed h.address hc.persistent with
    ⟨name, hname, hsaved⟩ | ⟨fault, hfailed, htakes⟩
  · rw [hsaved]
    have hreads (now : Moment) : (row.written name a.contact).contact now = .ok a.contact := by
      obtain ⟨d, hd, hid⟩ := h.about now
      exact Row.contact_written_of_identity hd hid hc.toLasting hname
    refine ⟨row.written name a.contact, ⟨rfl, h.address, fun now => ⟨_, hreads now, rfl⟩⟩, hc,
      fun now d hd => ?_⟩
    rw [Except.ok.inj ((hreads now).symm.trans hd)]
    exact .refl _
  · rw [hfailed]
    refine ⟨row, h, hc, fun now d hd => ⟨?_, fun hwritable => absurd ?_ htakes⟩⟩
    · obtain ⟨e, he, hid⟩ := h.about now
      rw [Except.ok.inj (hd.symm.trans he), hid]
    · exact hc.takes hwritable rfl

variable {row : Row}

theorem Mirrored.congr {b : Affairs} (h : a.Mirrored row) (hcontact : b.contact = a.contact)
    (hfiled : b.filed = a.filed) : b.Mirrored row where
  filed := hfiled.trans h.filed
  address := hcontact ▸ h.address
  about := hcontact ▸ h.about
  storable := hcontact ▸ h.storable
  restores := hcontact ▸ h.restores

theorem mirrored_of_reads {now : Moment} (hfiled : a.filed = some ⟨[row], 0, true⟩)
    (hreads : row.contact now = .ok a.contact)
    (hsame : ∀ later, row.contact later = row.contact now) (hp : row.persistent = true)
    (htext : textCell row.address = .ok row.address) : a.Mirrored row where
  filed := hfiled
  address := Row.address_of_contact hreads
  about later := ⟨_, (hsame later).trans hreads, rfl⟩
  storable := {
    toLasting := Row.lasting_of_contact hreads
    persistent := by
      obtain ⟨_, _, _, _, _, _, hc⟩ := Row.contact_eq_ok_iff.mp hreads
      rw [hc]
      exact hp
    address := ⟨_, Row.address_of_contact hreads, htext⟩ }
  restores later d hd := by
    rw [Except.ok.inj (hd.symm.trans ((hsame later).trans hreads))]
    exact .refl _

theorem Mirrored.setPresence (h : a.Mirrored row) (p : Presence) :
    ∃ row', (a.setPresence p).2.Mirrored row' := by
  let changed : Contact := { a.contact with presence := p }
  have hl : changed.Lasting := ⟨h.storable.name, h.storable.marker⟩
  exact (h.toFiled.withContact (c := changed) rfl).save (h.storable.of_identity rfl hl)

theorem Mirrored.comeBack (h : a.Mirrored row) : ∃ row', a.comeBack.2.Mirrored row' := by
  unfold Affairs.comeBack
  split
  · exact h.setPresence .online
  · exact ⟨row, h⟩

/-- A contact that has taken a feed in can be restored, whether or not it could be saved. -/
theorem Mirrored.takeIn (h : a.Mirrored row) (hfeed : feed.Fit a.contact) :
    ∃ row', (a.takeIn feed).2.Mirrored row' := by
  obtain ⟨⟨title, htitle⟩, hsound, hdates⟩ := hfeed
  obtain ⟨news, hnews, htells⟩ := hsound.exists_news
  obtain ⟨row', hmirrored⟩ := h.comeBack
  rcases hcome : a.comeBack with ⟨fault | _, u⟩
  all_goals rw [hcome] at hmirrored
  · rw [takeIn_of_stuck hcome]
    exact ⟨row', hmirrored⟩
  · have hcontact : u.contact = a.contact.online := by rw [← contact_comeBack, hcome]
    have hid : (a.contact.takingIn feed news.fresh).identity = u.contact.identity := by
      rw [hcontact]
      rfl
    rw [takeIn_of_news (congrArg Prod.fst hcome) hnews, hcome]
    dsimp only
    unfold record
    split
    · have hl : (a.contact.takingIn feed news.fresh).Lasting := by
        refine ⟨⟨title, htitle⟩, fun m hm => ?_⟩
        rcases Option.or_eq_some_iff.mp hm with hm | ⟨_, hm⟩
        · exact (htells.newest m hm).2.lasting hdates
        · exact h.storable.marker m hm
      exact (hmirrored.toFiled.withContact hid).save (hmirrored.storable.of_identity hid hl)
    · next hsame =>
      have hnone := h.storable.takingIn_eq htitle hsame
      exact ⟨row', hmirrored.congr (hnone.trans hcontact.symm) rfl⟩

/-- The contact is in the list and can be restored, or it is neither in the list nor on file. -/
def Settled (a : Affairs) : Prop :=
  (a.listed = 1 ∧ ∃ row, a.Mirrored row) ∨ (a.listed = 0 ∧ a.filed = some ⟨[], 0, true⟩)

theorem Mirrored.remove (h : a.Mirrored row) (hlisted : a.listed = 1) : a.remove.Settled := by
  obtain ⟨address, ha, htext⟩ := h.storable.address
  have hdelete : ∃ found, (⟨[row], 0, true⟩ : Store).delete a.contact.address
      = .ok (found, ⟨[], 0, true⟩) := by
    have hcell : a.contact.address.mapM textCell = .ok a.contact.address :=
      mapM_textCell_of_forall fun t ht => by
        rw [ha] at ht
        cases ht
        exact htext
    have hrows : [row].filter (fun r => some r.address != a.contact.address) = [] := by
      rw [List.filter_eq_nil_iff]
      intro r hr
      rw [List.mem_singleton.mp hr, h.address, bne_self_eq_false]
      exact Bool.false_ne_true
    unfold Store.delete
    rw [hcell, hrows]
    exact ⟨_, rfl⟩
  obtain ⟨found, hdelete⟩ := hdelete
  unfold Affairs.remove
  rw [if_neg (by omega), h.filed]
  simp only [Option.map_some, hdelete]
  exact .inr ⟨by rw [hlisted], rfl⟩

theorem Mirrored.recover (h : a.Mirrored row) (hlisted : a.listed = 1)
    (answer : Option (Except Fault Bool)) : (a.recover answer).Settled := by
  unfold Affairs.recover
  split
  · exact .inl ⟨hlisted, row, h⟩
  · obtain ⟨row', hoff⟩ := h.setPresence .offline
    have hstill := (a.listed_setPresence .offline).trans hlisted
    split
    · next hset =>
      rw [hset] at hoff hstill
      exact .inl ⟨hstill, row', hoff⟩
    · next b hset =>
      rw [hset] at hoff hstill
      have hasked : { b with asked := b.asked + 1 }.Mirrored row' := hoff.congr rfl rfl
      rcases answer with _ | fault | _ | _
      · exact .inl ⟨hstill, row', hoff⟩
      · exact .inl ⟨hstill, row', hasked⟩
      · exact .inl ⟨hstill, row', hasked⟩
      · exact hasked.remove hstill

theorem Mirrored.look (h : a.Mirrored row) (hlisted : a.listed = 1)
    {found : Except Fault Feed} (hfound : ∀ feed, found = .ok feed → feed.Fit a.contact)
    (answer : Option (Except Fault Bool)) : (a.look found answer).Settled := by
  unfold Affairs.look
  split
  · next feed =>
    obtain ⟨row', htaken⟩ := h.takeIn (hfound feed rfl)
    exact .inl ⟨(a.listed_takeIn feed).1.trans hlisted, row', htaken⟩
  · exact h.recover hlisted answer
  · exact .inl ⟨hlisted, row, h⟩

end Affairs

end Newswire

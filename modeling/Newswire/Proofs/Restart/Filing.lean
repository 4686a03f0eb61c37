import Newswire.Proofs.Restart.Loading

/-!
What the store has on file of one contact. A contact that came from the store, or whose name is a
text and whose marker is read back as it is, is read from its row as it was when it was last saved.
A look that takes a feed in saves the contact whenever it has changed, before anyone is told.
-/

namespace Newswire

variable {row : Row} {now : Moment} {c d : Contact} {name : String}

/-! ### Contacts that last -/

/-- Name and marker are read back as they were written. -/
structure Contact.Lasting (c : Contact) : Prop where
  name : ∃ text, c.name = .text text
  marker : ∀ m, c.marker = some m → m.Lasting

theorem Contact.Lasting.map_asRead (hc : c.Lasting) : c.marker.map Marker.asRead = c.marker := by
  cases hm : c.marker with
  | none => rfl
  | some m => rw [Option.map_some, (hc.marker m hm).asRead_eq]

theorem Contact.Lasting.takingIn_eq (hc : c.Lasting) {feed : Feed} {fresh : Option Marker}
    {title : String} (htitle : feed.title = .text title)
    (hsame : ¬ (!feed.title.same c.name || fresh.isSome) = true) :
    c.takingIn feed fresh = c.online := by
  obtain ⟨text, htext⟩ := hc.name
  rw [Bool.or_eq_true, not_or, Bool.not_eq_true', Bool.not_eq_false, htitle, htext,
    Value.same_text, beq_iff_eq] at hsame
  obtain ⟨rfl, hfresh⟩ := hsame
  rw [Option.isSome_iff_ne_none, not_not] at hfresh
  rw [hfresh, Contact.takingIn, htitle, ← htext]
  rfl

theorem Contact.Lasting.name_eq_of_cell (hc : c.Lasting) {position : Nat}
    (h : c.name.cell position = .ok (some name)) : c.name = .text name := by
  obtain ⟨text, htext⟩ := hc.name
  rw [htext] at h ⊢
  rw [Value.eq_of_cell_text h]

namespace Row

theorem address_of_contact (h : row.contact now = .ok c) : c.address = some row.address := by
  obtain ⟨_, _, _, _, _, _, rfl⟩ := contact_eq_ok_iff.mp h
  rfl

theorem lasting_of_contact (h : row.contact now = .ok c) : c.Lasting := by
  obtain ⟨_, marker, _, _, hmarker, _, rfl⟩ := contact_eq_ok_iff.mp h
  refine ⟨⟨_, rfl⟩, fun m hm => ?_⟩
  cases hm
  exact Marker.lasting_of_read hmarker

theorem contact_written_of_identity (h : row.contact now = .ok d) (hid : d.identity = c.identity)
    (hc : c.Lasting) (hname : c.name.cell 1 = .ok (some name)) :
    (row.written name c).contact now = .ok c := by
  rw [contact_written h, hc.map_asRead, ← hc.name_eq_of_cell hname]
  obtain ⟨_, _, _, _, _, _, _⟩ := c
  obtain ⟨_, _, _, _, _, _, _⟩ := d
  obtain ⟨rfl, rfl, rfl, rfl⟩ : _ ∧ _ ∧ _ ∧ _ := by
    simpa only [Contact.identity, Prod.mk.injEq] using hid
  rfl

end Row

/-! ### The row of a contact -/

namespace Affairs

variable {a b : Affairs}

/-- The store holds one row of the contact's address, which is about the contact. -/
structure Files (a : Affairs) (row : Row) (now : Moment) : Prop where
  filed : a.filed = some ⟨[row], 0, true⟩
  about : ∃ d, row.contact now = .ok d ∧ d.identity = a.contact.identity

/-- The store holds one row of the contact's address, which says what the contact is. -/
structure Says (a : Affairs) (row : Row) (now : Moment) : Prop where
  filed : a.filed = some ⟨[row], 0, true⟩
  reads : row.contact now = .ok a.contact

theorem Says.files (h : a.Says row now) : a.Files row now :=
  ⟨h.filed, _, h.reads, rfl⟩

theorem Files.address (h : a.Files row now) : a.contact.address = some row.address := by
  obtain ⟨d, hd, hid⟩ := h.about
  exact (congrArg Prod.fst hid).symm.trans (Row.address_of_contact hd)

theorem Files.withContact (h : a.Files row now) (hid : c.identity = a.contact.identity) :
    (a.withContact c).Files row now := by
  obtain ⟨d, hd, hd'⟩ := h.about
  exact ⟨h.filed, d, hd, hd'.trans hid.symm⟩

theorem save_of_filed (hfiled : a.filed = some ⟨[row], 0, true⟩)
    (ha : a.contact.address = some row.address) (hp : a.contact.persistent = true) :
    (∃ name, a.contact.name.cell 1 = .ok (some name) ∧
      a.save = (.ok (), { a with filed := some ⟨[row.written name a.contact], 0, true⟩ })) ∨
    ∃ fault, a.save = (.error fault, a) ∧
      ¬ (⟨[row], 0, true⟩ : Store).Takes a.contact := by
  have hown : ∀ r ∈ [row], some r.address = a.contact.address :=
    fun r hr => by rw [List.mem_singleton.mp hr, ha]
  rcases a.save_cases with ⟨_, _, hsaved, _⟩ | ⟨hcannot, fault, hfailed⟩
  · obtain ⟨name, hb, hname⟩ := eq_of_save hfiled hown hp hsaved
    exact .inl ⟨name, hname (List.cons_ne_nil row []), hsaved.trans (congrArg _ hb)⟩
  · refine .inr ⟨fault, hfailed, fun htakes => hcannot fun store hstore _ => ?_⟩
    obtain rfl := Option.some.inj (hfiled.symm.trans hstore)
    exact htakes

theorem Files.says_of_save (h : a.Files row now) (hp : a.contact.persistent = true)
    (hl : a.contact.Lasting) (hs : a.save = (.ok (), b)) :
    b.contact = a.contact ∧ ∃ row', b.Says row' now := by
  rcases save_of_filed h.filed h.address hp with ⟨name, hname, hsaved⟩ | ⟨fault, hfailed, _⟩
  · cases hs.symm.trans hsaved
    obtain ⟨d, hd, hid⟩ := h.about
    exact ⟨rfl, _, rfl, Row.contact_written_of_identity hd hid hl hname⟩
  · cases hs.symm.trans hfailed

theorem Says.comeBack (h : a.Says row now) (hp : a.contact.persistent = true)
    (hs : a.comeBack = (.ok (), b)) : b.contact = a.contact.online ∧ ∃ row', b.Says row' now := by
  unfold Affairs.comeBack at hs
  split at hs
  · have hl := Row.lasting_of_contact h.reads
    let back : Contact := { a.contact with presence := .online }
    exact (h.files.withContact (c := back) rfl).says_of_save hp ⟨hl.name, hl.marker⟩ hs
  · next hon =>
    cases hs
    exact ⟨(Contact.online_of_ne_offline hon).symm, row, h⟩

/-- A contact that has taken a feed in is what its row says. -/
theorem Says.takeIn {feed : Feed} {news : News} {title : String} (h : a.Says row now)
    (hp : a.contact.persistent = true) (htitle : feed.title = .text title)
    (hnews : feed.news a.contact.marker = .ok news)
    (hfresh : ∀ m, news.fresh = some m → m.Lasting) (ht : a.takeIn feed = (.ok (), b)) :
    b.contact = a.contact.takingIn feed news.fresh ∧ ∃ row', b.Says row' now := by
  have hback : a.comeBack.1 = .ok () := comeBack_of_takeIn (congrArg Prod.fst ht)
  obtain ⟨hcontact, row', hu⟩ := h.comeBack hp (Prod.ext hback rfl)
  have hid : (a.contact.takingIn feed news.fresh).identity = a.comeBack.2.contact.identity := by
    rw [hcontact]
    rfl
  have hl := Row.lasting_of_contact h.reads
  rw [takeIn_of_news hback hnews] at ht
  unfold record at ht
  split at ht
  · have hlasting : (a.contact.takingIn feed news.fresh).Lasting := by
      refine ⟨⟨title, htitle⟩, fun m hm => ?_⟩
      rcases Option.or_eq_some_iff.mp hm with hm | ⟨_, hm⟩
      · exact hfresh m hm
      · exact hl.marker m hm
    exact (hu.files.withContact hid).says_of_save hp hlasting ht
  · next hsame =>
    have hsays : a.comeBack.2.contact = a.contact.takingIn feed news.fresh :=
      hcontact.trans (hl.takingIn_eq htitle hsame).symm
    cases ht
    exact ⟨rfl, row', hu.filed, hu.reads.trans (congrArg Except.ok hsays)⟩

end Affairs

end Newswire

import Newswire.Proofs.Affairs

/-!
The name of a contact and what is on file of it. Taking in a feed gives its contact the title and may
fail afterwards; then the name is another one and the old name stays on file. Whatever else is done
with the feed of a contact leaves on file the name that it bears.
-/

namespace Newswire

theorem Value.same_text_iff {title : String} {v : Value} :
    (Value.text title).same v = true ↔ v = .text title := by
  cases v with
  | text s => rw [same_text, beq_iff_eq, Value.text.injEq, eq_comm]
  | _ => simp only [same, Bool.false_eq_true, reduceCtorEq]

/-! ### Taking in a feed with another title -/

namespace Affairs

variable {a b : Affairs} {c : Contact} {feed : Feed}

theorem name_comeBack (a : Affairs) : a.comeBack.2.contact.name = a.contact.name := by
  rw [contact_comeBack]
  rfl

theorem name_takeIn (hback : a.comeBack.1 = .ok ()) :
    (a.takeIn feed).2.contact.name = feed.title := by
  obtain ⟨c, _, hname, _, ⟨fault, htaken⟩ | ⟨_, htaken⟩ | ⟨b, hs, htaken⟩⟩ := takeIn_ends hback feed
  all_goals rw [htaken]
  · exact hname
  · exact hname
  · have hcontact := contact_save (a.comeBack.2.withContact c)
    rw [hs] at hcontact
    exact (congrArg Contact.name hcontact).trans hname

theorem takeIn_fails_iff (hback : a.comeBack.1 = .ok ())
    (hother : feed.title.same a.contact.name = false) :
    (∃ fault, (a.takeIn feed).1 = .error fault) ↔
      ∀ news, feed.news a.contact.marker = .ok news →
        ¬ a.CanFile (a.contact.takingIn feed news.fresh) := by
  have hfails : (∃ fault, (a.takeIn feed).1 = .error fault) ↔ ¬ (a.takeIn feed).1 = .ok () := by
    cases (a.takeIn feed).1 <;> simp
  rw [hfails, takeIn_eq_ok_iff, hother]
  constructor
  · intro hnot news hnews hcan
    exact hnot ⟨comeBack_eq_ok_iff.mp hback, news, hnews, fun _ => hcan⟩
  · rintro hrefused ⟨_, news, hnews, hcan⟩
    exact hrefused news hnews (hcan rfl)

theorem renamed_in_vain_iff {title : String} (htitle : feed.title = .text title) :
    (∃ fault, (a.takeIn feed).1 = .error fault) ∧
        (a.takeIn feed).2.contact.name ≠ a.contact.name ↔
      feed.title ≠ a.contact.name ∧ (a.contact.presence = .offline → a.CanFile a.contact) ∧
        ∀ news, feed.news a.contact.marker = .ok news →
          ¬ a.CanFile (a.contact.takingIn feed news.fresh) := by
  have hsame : feed.title.same a.contact.name = true ↔ a.contact.name = feed.title := by
    rw [htitle]
    exact Value.same_text_iff
  rw [← comeBack_eq_ok_iff]
  constructor
  · rintro ⟨hfails, hname⟩
    cases hback : a.comeBack.1 with
    | error fault =>
      rw [takeIn_of_stuck (Prod.ext hback rfl) feed] at hname
      exact absurd a.name_comeBack hname
    | ok _ =>
      rw [name_takeIn hback] at hname
      have hother := Bool.eq_false_iff.mpr fun h => hname (hsame.mp h).symm
      exact ⟨hname, rfl, (takeIn_fails_iff hback hother).mp hfails⟩
  · rintro ⟨hname, hback, hrefused⟩
    have hother := Bool.eq_false_iff.mpr fun h => hname (hsame.mp h).symm
    refine ⟨(takeIn_fails_iff hback hother).mpr hrefused, ?_⟩
    rw [name_takeIn hback]
    exact hname

/-- What is on file of the contact bears its name, and there is something while it is in the
list. -/
structure Named (a : Affairs) : Prop where
  rows : ∀ store, a.filed = some store → ∀ row ∈ store.rows,
    some row.address = a.contact.address ∧ a.contact.name = .text row.name
  once : a.listed ≤ 1
  held : a.listed ≠ 0 → ∀ store, a.filed = some store → store.rows ≠ []

theorem Named.congr (h : a.Named) (haddress : b.contact.address = a.contact.address)
    (hname : b.contact.name = a.contact.name) (hlisted : b.listed = a.listed)
    (hfiled : b.filed = a.filed) : b.Named where
  rows := by
    rw [haddress, hname, hfiled]
    exact h.rows
  once := hlisted ▸ h.once
  held := by
    rw [hlisted, hfiled]
    exact h.held

theorem Named.saved (h : a.Named) (haddress : c.address = a.contact.address)
    (hp : c.persistent = true) (hname : c.name ≠ a.contact.name → ∃ title, c.name = .text title)
    (hs : (a.withContact c).save = (.ok (), b)) : b.Named := by
  obtain ⟨filed, rfl⟩ : ∃ filed, b = { a.withContact c with filed := filed } := by
    obtain ⟨filed, hfiled⟩ := exists_save_eq (a.withContact c)
    rw [hs] at hfiled
    exact ⟨filed, hfiled⟩
  cases hfiled : a.filed with
  | none =>
    have hnone : (a.withContact c).filed = none := hfiled
    unfold save at hs
    rw [hnone] at hs
    cases hs
    exact ⟨fun store hstore => (nomatch hfiled.symm.trans hstore), h.once, h.held⟩
  | some store =>
    have hown : ∀ row ∈ store.rows, some row.address = c.address :=
      fun row hrow => ((h.rows store hfiled row hrow).1).trans haddress.symm
    obtain ⟨name, hb, hcell⟩ := eq_of_save (a := a.withContact c) hfiled hown hp hs
    have hfiled' : filed = some { store with rows := store.rows.map (·.written name c) } :=
      congrArg Affairs.filed hb
    subst hfiled'
    refine ⟨?_, h.once, fun hlisted own heq => ?_⟩
    · rintro _ ⟨⟩ row hrow
      obtain ⟨old, hold, rfl⟩ := List.mem_map.mp hrow
      have htext : ∃ title, c.name = .text title := by
        by_cases hsame : c.name = a.contact.name
        · exact ⟨old.name, hsame.trans (h.rows store hfiled old hold).2⟩
        · exact hname hsame
      obtain ⟨title, htitle⟩ := htext
      have hwritten : c.name.cell 1 = .ok (some name) := hcell (List.ne_nil_of_mem hold)
      rw [htitle] at hwritten
      exact ⟨hown old hold, by rw [Value.eq_of_cell_text hwritten]; exact htitle⟩
    · obtain rfl := Option.some.inj heq
      exact fun hnil => h.held hlisted store hfiled (List.map_eq_nil_iff.mp hnil)

theorem Named.setPresence (h : a.Named) (hp : a.contact.persistent = true) (p : Presence) :
    (a.setPresence p).2.Named := by
  let changed : Contact := { a.contact with presence := p }
  rcases hs : (a.withContact changed).save with ⟨fault | _, b⟩
  · have hb : (a.setPresence p).2 = a.withContact changed :=
      (congrArg Prod.snd hs).trans (eq_of_save_error hs)
    rw [hb]
    exact h.congr rfl rfl rfl rfl
  · have hb : (a.setPresence p).2 = b := congrArg Prod.snd hs
    rw [hb]
    exact h.saved (c := changed) rfl hp (fun hne => absurd rfl hne) hs

theorem Named.comeBack (h : a.Named) (hp : a.contact.persistent = true) : a.comeBack.2.Named := by
  unfold Affairs.comeBack
  split
  · exact h.setPresence hp .online
  · exact h

/-- A contact that has taken a feed in bears the name that is on file, unless that failed after it
had got another. -/
theorem Named.takeIn (h : a.Named) (hp : a.contact.persistent = true) {title : String}
    (htitle : feed.title = .text title)
    (hvain : ¬ ((∃ fault, (a.takeIn feed).1 = .error fault) ∧
      (a.takeIn feed).2.contact.name ≠ a.contact.name)) : (a.takeIn feed).2.Named := by
  have hnamed : a.comeBack.2.Named := h.comeBack hp
  cases hback : a.comeBack.1 with
  | error fault =>
    rw [takeIn_of_stuck (Prod.ext hback rfl) feed]
    exact hnamed
  | ok _ =>
    obtain ⟨c, hid, hname, _, hends⟩ := takeIn_ends hback feed
    have haddress : c.address = a.comeBack.2.contact.address := by
      rw [contact_comeBack]
      exact congrArg Prod.fst hid
    -- a contact that keeps its name bears the one on file, be it saved or not
    have hkept (hsame : feed.title = a.contact.name) : (a.comeBack.2.withContact c).Named :=
      hnamed.congr haddress (by rw [a.name_comeBack, ← hsame]; exact hname) rfl rfl
    rw [name_takeIn hback] at hvain
    obtain ⟨fault, htaken⟩ | ⟨hsame, htaken⟩ | ⟨b, hs, htaken⟩ := hends
    all_goals rw [htaken] at hvain ⊢
    · exact hkept (not_not.mp fun hne => hvain ⟨⟨fault, rfl⟩, hne⟩)
    · rw [htitle, Value.same_text_iff] at hsame
      exact hkept (htitle.trans hsame.symm)
    · have hpersistent : c.persistent = true := (congrArg (·.2.1) hid).trans hp
      exact hnamed.saved haddress hpersistent (fun _ => ⟨title, hname.trans htitle⟩) hs

def Unfiled (a : Affairs) : Prop :=
  ∀ store, a.filed = some store → store.rows = []

theorem unfiled_comeBack : a.comeBack.2.Unfiled ↔ a.Unfiled := by
  have hunfiled (d : Affairs) :
      d.Unfiled ↔ ∀ addresses, d.filed.map (·.rows.map Row.address) = some addresses →
        addresses = [] := by
    simp only [Unfiled, Option.map_eq_some_iff, forall_exists_index, and_imp]
    exact ⟨fun h _ store hstore hmap => hmap ▸ List.map_eq_nil_iff.mpr (h store hstore),
      fun h store hstore => List.map_eq_nil_iff.mp (h _ store hstore rfl)⟩
  rw [hunfiled, hunfiled, addresses_comeBack]

theorem filed_takeIn_of_error {fault : Fault} (hfails : (a.takeIn feed).1 = .error fault) :
    (a.takeIn feed).2.filed = a.comeBack.2.filed := by
  cases hback : a.comeBack.1 with
  | error fault => rw [takeIn_of_stuck (Prod.ext hback rfl) feed]
  | ok _ =>
    obtain ⟨c, _, _, _, ⟨fault, htaken⟩ | ⟨_, htaken⟩ | ⟨b, _, htaken⟩⟩ := takeIn_ends hback feed
    all_goals rw [htaken] at hfails ⊢
    · rfl
    · cases hfails
    · cases hfails

theorem Named.takeIn_in_vain_iff (h : a.Named) (hp : a.contact.persistent = true) {fault : Fault}
    (hfails : (a.takeIn feed).1 = .error fault)
    (hname : (a.takeIn feed).2.contact.name ≠ a.contact.name) :
    (a.takeIn feed).2.Named ↔ a.Unfiled := by
  have hnamed := h.comeBack hp
  have hfiled := filed_takeIn_of_error hfails
  have hlisted := (a.listed_takeIn feed).1
  rw [← unfiled_comeBack]
  constructor
  · intro htaken store hstore
    refine List.eq_nil_iff_forall_not_mem.mpr fun row hrow => hname ?_
    have hnew := (htaken.rows store (hfiled.trans hstore) row hrow).2
    have hold := (hnamed.rows store hstore row hrow).2
    rw [hnew, ← hold, a.name_comeBack]
  · intro hnone
    refine ⟨fun store hstore row hrow => ?_, hlisted ▸ h.once, fun hne store hstore => ?_⟩
    · rw [hnone store (hfiled.symm.trans hstore)] at hrow
      cases hrow
    · have hheld := hnamed.held (by rw [listed_comeBack, ← hlisted]; exact hne)
      exact hheld store (hfiled.symm.trans hstore)

theorem Named.remove (h : a.Named) : a.remove.Named where
  rows := by
    obtain ⟨shrink, hfiled, hsub⟩ := a.filed_remove
    rw [hfiled, contact_remove]
    intro store hstore row hrow
    obtain ⟨old, hold, rfl⟩ := Option.map_eq_some_iff.mp hstore
    exact h.rows old hold row (hsub old row hrow)
  once := by
    rw [listed_remove]
    exact Nat.le_trans (Nat.sub_le ..) h.once
  held hlisted := by
    rw [listed_remove] at hlisted
    have honce := h.once
    omega

theorem Named.recover (h : a.Named) (hp : a.contact.persistent = true)
    (answer : Option (Except Fault Bool)) : (a.recover answer).Named := by
  have hoff := h.setPresence hp .offline
  unfold Affairs.recover
  split
  · exact h
  · rcases hset : a.setPresence .offline with ⟨fault | _, b⟩
    all_goals rw [hset] at hoff
    · exact hoff
    · have hasked : { b with asked := b.asked + 1 }.Named := hoff.congr rfl rfl rfl rfl
      rcases answer with _ | fault | _ | _
      · exact hoff
      · exact hasked
      · exact hasked
      · exact hasked.remove

end Affairs

end Newswire

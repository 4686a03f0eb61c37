import Mathlib.Logic.Basic
import Newswire.Newsroom.Refresh
import Newswire.Proofs.Telling

/-!
Saving a contact. Whether the store takes a contact depends on what is to be written, on whether it
is open and on the addresses that it holds; no write of another contact changes that. So a store
that takes a contact before it is brought back online takes it afterwards.
-/

namespace Newswire

/-! ### What the store takes -/

namespace Store

/-- What a write needs of the store and of the contact. -/
def Takes (s : Store) (c : Contact) : Prop :=
  s.isOpen ∧ (∃ name, c.name.cell 1 = .ok name ∧ (s.holds c.address → name.isSome)) ∧
    (∃ marker, (c.marker.map Marker.text).mapM textCell = .ok marker) ∧
    ∃ address, c.address.mapM textCell = .ok address

theorem checkOpen_eq_ok {s : Store} {u : Unit} : s.checkOpen = .ok u ↔ s.isOpen = true := by
  unfold checkOpen
  split
  · next h => exact ⟨fun _ => h, fun _ => rfl⟩
  · next h => exact ⟨(nomatch ·), fun ho => absurd ho h⟩

theorem holds_congr {s t : Store} (h : t.rows.map Row.address = s.rows.map Row.address)
    (address : Option String) : t.holds address = s.holds address := by
  have hany (u : Store) :
      u.holds address = (u.rows.map Row.address).any fun a => some a == address := by
    simp only [holds, List.any_map, Function.comp_def]
  rw [hany, hany, h]

theorem update_eq_ok {s t : Store} {c : Contact} (h : s.update c = .ok t) :
    s.Takes c ∧ t.isOpen = s.isOpen ∧ t.rows.map Row.address = s.rows.map Row.address := by
  unfold update at h
  obtain ⟨_, hopen, h⟩ := bind_eq_ok.mp h
  obtain ⟨name, hname, h⟩ := bind_eq_ok.mp h
  obtain ⟨marker, hmarker, h⟩ := bind_eq_ok.mp h
  obtain ⟨address, haddress, h⟩ := bind_eq_ok.mp h
  have hopen := checkOpen_eq_ok.mp hopen
  split at h
  · obtain ⟨text, hfilled, h⟩ := bind_eq_ok.mp h
    cases h
    refine ⟨⟨hopen, ⟨name, hname, fun _ => ?_⟩, ⟨marker, hmarker⟩, ⟨address, haddress⟩⟩, rfl, ?_⟩
    · cases name with
      | none => cases hfilled
      | some _ => rfl
    · simp only [List.map_map]
      apply List.map_congr_left
      intro row _
      simp only [Function.comp_apply]
      split <;> rfl
  · next hh =>
    cases h
    exact ⟨⟨hopen, ⟨name, hname, fun h => absurd h hh⟩, ⟨marker, hmarker⟩, ⟨address, haddress⟩⟩,
      rfl, rfl⟩

theorem exists_update_iff {s : Store} {c : Contact} : (∃ t, s.update c = .ok t) ↔ s.Takes c := by
  constructor
  · rintro ⟨t, h⟩
    exact (update_eq_ok h).1
  · rintro ⟨hopen, ⟨name, hname, hfilled⟩, ⟨marker, hmarker⟩, ⟨address, haddress⟩⟩
    have hopen : s.checkOpen = .ok () := checkOpen_eq_ok.mpr hopen
    unfold update
    rw [hopen, hname, hmarker, haddress]
    simp only [bind, Except.bind]
    split
    · next hh =>
      obtain ⟨text, rfl⟩ := Option.isSome_iff_exists.mp (hfilled hh)
      exact ⟨_, rfl⟩
    · exact ⟨_, rfl⟩

theorem takes_congr {s t : Store} (ho : t.isOpen = s.isOpen)
    (ha : t.rows.map Row.address = s.rows.map Row.address) {c : Contact} (h : s.Takes c) :
    t.Takes c := by
  unfold Takes at h ⊢
  rwa [ho, holds_congr ha]

end Store

namespace Newsroom

/-- Writing the contact down would not fail: nothing is written without a store or of a passing
contact, and otherwise the store takes it. -/
def CanSave (s : Newsroom) (c : Contact) : Prop :=
  ∀ store, s.store = some store → c.persistent = true → ∃ t, store.update c = .ok t

theorem CanSave.presence {s : Newsroom} {c : Contact} (hc : s.CanSave c) (p : Presence) :
    s.CanSave { c with presence := p } := by
  intro store hstore hp
  have htakes : store.Takes c := Store.exists_update_iff.mp (hc store hstore hp)
  exact Store.exists_update_iff.mpr htakes

theorem exec_save_of_canSave {s : Newsroom} {h : Handle} (hs : s.CanSave (s.contact h)) :
    ∃ store, exec (save h) s = (.ok (), { s with store := store }) ∧
      ∀ c, s.CanSave c → { s with store := store }.CanSave c := by
  cases hstore : s.store with
  | none =>
    refine ⟨none, ?_, fun c _ t ht => nomatch ht⟩
    simp only [save, exec_bind, exec_get, hstore, exec_pure]
    rw [← hstore]
  | some store =>
    by_cases hp : (s.contact h).persistent = true
    · obtain ⟨t, ht⟩ := hs store hstore hp
      refine ⟨some t, ?_, fun c hc u hu hcp => ?_⟩
      · simp only [save, exec_bind, exec_get, hstore, if_pos hp, exec_lift, ht, exec_modify]
      · cases hu
        obtain ⟨_, ho, ha⟩ := Store.update_eq_ok ht
        have htakes := Store.exists_update_iff.mp (hc store hstore hcp)
        exact Store.exists_update_iff.mpr (Store.takes_congr ho ha htakes)
    · refine ⟨s.store, ?_, fun c hc => hc⟩
      simp only [save, exec_bind, exec_get, hstore, if_neg hp, exec_pure]
      rw [← hstore]

theorem exec_save_of_not_canSave {s : Newsroom} {h : Handle} (hs : ¬ s.CanSave (s.contact h)) :
    ∃ fault, exec (save h) s = (.error fault, s) := by
  simp only [CanSave, not_forall] at hs
  obtain ⟨store, hstore, hp, hno⟩ := hs
  cases hu : store.update (s.contact h) with
  | ok t => exact absurd ⟨t, hu⟩ hno
  | error fault =>
    refine ⟨fault, ?_⟩
    simp only [save, exec_bind, exec_get, hstore, if_pos hp, exec_lift, hu]

theorem Keeps.save {γ : Type} {view : Newsroom → γ}
    (hstore : ∀ s store, view { s with store := store } = view s) (h : Handle) :
    Keeps view (save h) := by
  refine Keeps.get.bind fun s => ?_
  cases s.store with
  | none => exact .pure _
  | some store => exact .ite (.bind (.lift _) fun _ => .modify fun _ => hstore _ _) (.pure _)

end Newsroom

end Newswire

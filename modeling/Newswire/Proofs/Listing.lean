import Newswire.Proofs.Sparing

/-!
How the list grows. A contact that is put into it gets a handle of its own, so the contacts that are
in it already stay; and since nobody is put into it whose address it has, no address is listed
twice.
-/

namespace Newswire.Newsroom

variable {s t : Newsroom} {w : Outside}

/-! ### New contacts -/

def registering (s : Newsroom) (c : Contact) : Newsroom :=
  { s.withContact s.size c with size := s.size + 1 }

def enlisting (s : Newsroom) (c : Contact) : Newsroom :=
  { s.registering c with roster := s.roster ++ [s.size] }

def enlistingAll (s : Newsroom) (cs : List Contact) : Newsroom :=
  cs.foldl enlisting s

@[simp]
theorem exec_register (c : Contact) (s : Newsroom) :
    exec (register c) s = (.ok s.size, s.registering c) := rfl

theorem exec_appendAll (cs : List Contact) (s : Newsroom) :
    exec (appendAll cs) s = (.ok (), s.enlistingAll cs) := by
  induction cs generalizing s with
  | nil => rfl
  | cons c rest ih =>
    simp only [appendAll, exec_bind, exec_register, exec_modify]
    exact ih _

/-- The list has grown, and nothing else has changed but that there are new contacts. -/
structure Grown (cs : List Contact) (s t : Newsroom) : Prop where
  contacts : t.contacts = s.contacts ++ cs
  known : ∀ h ∈ t.roster, h < t.size
  size : s.size ≤ t.size
  contact : ∀ i < s.size, t.contact i = s.contact i
  store : t.store = s.store
  trace : t.trace = s.trace

theorem grown_enlistingAll (cs : List Contact) (hs : ∀ h ∈ s.roster, h < s.size) :
    Grown cs s (s.enlistingAll cs) := by
  induction cs generalizing s with
  | nil => exact ⟨(List.append_nil _).symm, hs, Nat.le_refl _, fun _ _ => rfl, rfl, rfl⟩
  | cons c rest ih =>
    have hknown : ∀ h ∈ (s.enlisting c).roster, h < (s.enlisting c).size := fun h hm => by
      rcases List.mem_append.mp hm with hm | hm
      · exact Nat.lt_succ_of_lt (hs h hm)
      · rw [List.mem_singleton.mp hm]
        exact Nat.lt_succ_self _
    have hcontact : ∀ i < s.size, (s.enlisting c).contact i = s.contact i := fun i hi =>
      contact_withContact_of_ne s c (Nat.ne_of_lt hi)
    have hcontacts : (s.enlisting c).contacts = s.contacts ++ [c] := by
      have hnew : (s.enlisting c).contact s.size = c := contact_withContact s _ c
      show (s.roster ++ [s.size]).map (s.enlisting c).contact = _
      rw [List.map_append, List.map_singleton, hnew, contacts]
      exact congrArg (· ++ [c]) (List.map_congr_left fun i hi => hcontact i (hs i hi))
    have hrest := ih hknown
    exact {
      contacts := by
        rw [show s.enlistingAll (c :: rest) = (s.enlisting c).enlistingAll rest from rfl,
          hrest.contacts, hcontacts, List.append_assoc, List.singleton_append]
      known := hrest.known
      size := Nat.le_trans (Nat.le_succ _) hrest.size
      contact := fun i hi => (hrest.contact i (Nat.lt_succ_of_lt hi)).trans (hcontact i hi)
      store := hrest.store
      trace := hrest.trace }

theorem prefix_roster_enlistingAll (cs : List Contact) (s : Newsroom) :
    s.roster <+: (s.enlistingAll cs).roster := by
  induction cs generalizing s with
  | nil => exact List.prefix_rfl
  | cons c rest ih => exact (List.prefix_append s.roster [s.size]).trans (ih (s.enlisting c))

/-! ### Loading and subscribing -/

theorem mem_addresses_iff {address : Option String} :
    address ∈ s.contacts.map Contact.address ↔ s.lists address = true := by
  simp only [lists, List.any_eq_true, List.mem_map, beq_iff_eq]

theorem nodup_addresses_append {stored : List Contact}
    (hs : (s.contacts.map Contact.address).Nodup) (hstored : (stored.map Contact.address).Nodup) :
    ((s.contacts ++ stored.filter fun c => !s.lists c.address).map Contact.address).Nodup := by
  rw [List.map_append, List.nodup_append]
  refine ⟨hs, hstored.sublist (List.filter_sublist.map _), fun a ha b hb heq => ?_⟩
  obtain ⟨c, hc, rfl⟩ := List.mem_map.mp hb
  have hnew := (List.mem_filter.mp hc).2
  rw [← heq, mem_addresses_iff.mp ha] at hnew
  cases hnew

theorem exec_load (w : Outside) (s : Newsroom) :
    exec (load w) s = match s.store with
      | none => (.ok 0, s)
      | some store =>
        match store.all w.now with
        | .error fault => (.error fault, s)
        | .ok stored =>
          (.ok stored.length,
            (s.enlistingAll (stored.filter fun c => !s.lists c.address)).noting
              [⟨.info, .roster, "Loaded " ++ toString stored.length ++ " feed contacts",
                none⟩]) := by
  unfold load
  rw [exec_bind, exec_get]
  dsimp only
  cases s.store with
  | none => rfl
  | some store =>
    simp only [exec_bind, exec_lift]
    cases store.all w.now with
    | error fault => rfl
    | ok stored => simp only [exec_get, exec_appendAll, exec_note, exec_pure]

/-- A contact that is subscribed to gets into the store first and then into the list. -/
theorem exec_subscribe (w : Outside) (address : Option String) (name : Value) (s : Newsroom) :
    exec (subscribe w address name) s =
      if s.lists address then (.error (.alreadySubscribed address), s)
      else
        let c := Contact.fresh address name w.now
        let notes : List Journal.Note :=
          [⟨.info, .roster, "Subscribed to " ++ addressText address, none⟩]
        match s.store with
        | none => (.ok s.size, (s.enlisting c).noting notes)
        | some store =>
          match store.add c with
          | .error fault => (.error fault, s)
          | .ok (c, store) =>
            (.ok s.size, ({ s with store := some store }.enlisting c).noting notes) := by
  unfold subscribe
  rw [exec_bind, exec_get]
  dsimp only
  split
  · rfl
  · cases s.store with
    | none => rfl
    | some store =>
      simp only [exec_bind, exec_lift]
      cases store.add (Contact.fresh address name w.now) with
      | error fault => rfl
      | ok added => rfl

end Newswire.Newsroom

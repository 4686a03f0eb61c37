import Newswire.Proofs.Acts

/-!
A new list over the store of an old one. When the store is open and its rows can be read, the list
holds what they say, in their order, whether or not the store was closed and opened in between; and
what the old list held stays as it is for those who still have it.
-/

namespace Newswire.Newsroom

/-- A new list is begun over the store as it is, or after it was closed and opened again. -/
def Begins (clockwork : Clockwork) (x : Engine Unit) : Prop :=
  x = beginAnew clockwork ∨ x = restart clockwork

/-- A new list over the same store holds these contacts. -/
structure Afresh (cs : List Contact) (s t : Newsroom) : Prop where
  contacts : t.contacts = cs
  contact : ∀ i < s.size, t.contact i = s.contact i
  store : t.store = s.store
  trace : ∃ notes : List Journal.Note, t.trace = s.trace ++ notes.map Entry.noted

variable {s : Newsroom} {store : Store} {clockwork : Clockwork} {begin : Engine Unit}

theorem exec_begins (hstore : s.store = some store) (hopen : store.isOpen = true)
    (hbegin : Begins clockwork begin) :
    ∃ notes : List Journal.Note,
      exec begin s = (.ok (), (s.emptied s.store clockwork).noting notes) := by
  rcases hbegin with rfl | rfl
  · exact exec_beginAnew clockwork s
  · have hsame : store.close.connect = store := by
      rw [Store.close, Store.connect, ← hopen]
    obtain ⟨notes, hbegin⟩ := exec_restart clockwork s
    rw [hstore, Option.map_some, hsame, ← hstore] at hbegin
    exact ⟨notes, hbegin⟩

theorem exec_afresh (hstore : s.store = some store) (hopen : store.isOpen = true)
    (hsound : store.Sound) (hbegin : Begins clockwork begin) (w : Outside) :
    ∃ cs t, store.all w.now = .ok cs ∧
      exec (do begin; load w) s = (.ok cs.length, t) ∧ Afresh cs s t := by
  obtain ⟨notes, hbegun⟩ := exec_begins hstore hopen hbegin
  obtain ⟨cs, hall⟩ := hsound.exists_all hopen w.now
  let begun := (s.emptied s.store clockwork).noting notes
  let loaded : Journal.Note :=
    ⟨.info, .roster, "Loaded " ++ toString cs.length ++ " feed contacts", none⟩
  have hrest : begun.store = some store := hstore
  have hnew : cs.filter (fun c => !begun.lists c.address) = cs :=
    List.filter_eq_self.mpr fun _ _ => rfl
  have hgrown : Grown cs begun (begun.enlistingAll cs) :=
    grown_enlistingAll cs fun _ hm => nomatch hm
  refine ⟨cs, (begun.enlistingAll cs).noting [loaded], hall, ?_, ?_⟩
  · rw [exec_bind, hbegun]
    show exec (load w) begun = _
    rw [exec_load, hrest]
    simp only [hall, hnew]
    rfl
  · exact {
      contacts := hgrown.contacts
      contact := hgrown.contact
      store := hgrown.store
      trace := ⟨notes ++ [loaded], by
        rw [List.map_append, ← List.append_assoc]
        exact congrArg (· ++ [Entry.noted loaded]) hgrown.trace⟩ }

theorem afresh_of_renews (hstore : s.store = some store) (hopen : store.isOpen = true)
    (hsound : store.Sound) {turn : Turn} (hrenews : turn.act.Renews) :
    ∃ cs, store.all turn.world.now = .ok cs ∧ Afresh cs s (s.pass turn) := by
  obtain ⟨w, act⟩ := turn
  have hafresh {clock : Clockwork} {x : Engine Unit} (hx : Begins clock x) :
      ∃ cs, store.all w.now = .ok cs ∧ Afresh cs s (exec (do x; discard (load w)) s).2 := by
    obtain ⟨cs, t, hall, hload, hafresh⟩ := exec_afresh hstore hopen hsound hx w
    have hsame : (exec (do x; discard (load w)) s).2 = t := by
      rw [exec_bind] at hload ⊢
      rcases he : exec x s with ⟨fault | _, u⟩
      all_goals rw [he] at hload
      · cases hload
      · dsimp only at hload ⊢
        rw [exec_discard, hload]
    exact ⟨cs, hall, hsame ▸ hafresh⟩
  cases act with
  | anew clockwork => exact hafresh (.inl rfl)
  | restart clockwork => exact hafresh (.inr rfl)
  | _ => exact hrenews.elim

end Newswire.Newsroom

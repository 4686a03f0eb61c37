import Newswire.Proofs.Conduct

/-!
What an operation on some contacts spares. The others stay as they are, and so does whatever the
store holds of addresses other than theirs; the list and the table lose entries at most; nobody is
asked about another contact; and of a contact itself, address, id and time of creation stay. So the
affairs of contacts with other addresses are not touched.
-/

namespace Newswire

/-- What is left of a store after writes for some addresses. -/
structure Store.Sparing (own : Option String → Prop) (s t : Store) : Prop where
  isOpen : t.isOpen = s.isOpen
  addresses : (t.rows.map Row.address).Sublist (s.rows.map Row.address)
  only : ∀ address, ¬ own address → t.only address = s.only address
  sound : s.Sound → t.Sound

namespace Store.Sparing

variable {own : Option String → Prop} {s t u : Store} {c : Contact}

theorem refl (own : Option String → Prop) (s : Store) : Sparing own s s :=
  ⟨rfl, .refl _, fun _ _ => rfl, id⟩

theorem trans (h : Sparing own s t) (h' : Sparing own t u) : Sparing own s u where
  isOpen := h'.isOpen.trans h.isOpen
  addresses := h'.addresses.trans h.addresses
  only address ha := (h'.only address ha).trans (h.only address ha)
  sound := h'.sound ∘ h.sound

theorem mono {own' : Option String → Prop} (hown : ∀ address, own address → own' address)
    (h : Sparing own s t) : Sparing own' s t :=
  { h with only := fun address ha => h.only address fun ho => ha (hown address ho) }

theorem of_update (hown : own c.address) (h : s.update c = .ok t) : Sparing own s t where
  isOpen := (update_eq_ok h).2.1
  addresses := (update_eq_ok h).2.2 ▸ .refl _
  only _ ha := only_of_update h fun heq => ha (heq ▸ hown)
  sound hs := hs.update h

theorem of_delete {address : Option String} {found : Bool} (hown : own address)
    (h : s.delete address = .ok (found, t)) : Sparing own s t where
  isOpen := by rw [eq_of_delete h]
  addresses := by
    rw [eq_of_delete h]
    exact List.filter_sublist.map _
  only _ ha := only_of_delete h fun heq => ha (heq ▸ hown)
  sound hs := hs.delete h

end Store.Sparing

/-- The feed that was asked for, and about whom. -/
def Entry.fetched? : Entry → Option (Handle × Option String)
  | .fetched about address => some (about, address)
  | _ => none

/-- Whom the user was asked about is one of some contacts. -/
def Entry.AsksOf (hs : List Handle) : Entry → Prop
  | .asked about _ _ => about ∈ hs
  | _ => True

theorem Entry.AsksOf.mono {hs hs' : List Handle} (hsub : hs ⊆ hs') {entry : Entry}
    (h : entry.AsksOf hs) : entry.AsksOf hs' := by
  cases entry with
  | asked about question answer => exact hsub h
  | _ => trivial

namespace Newsroom

/-- The feeds that have been asked for so far. -/
def fetches (s : Newsroom) : List (Handle × Option String) :=
  s.trace.filterMap Entry.fetched?

/-- What is left of a newsroom after an operation on some contacts that asks for some feeds. -/
structure Sparing (hs : List Handle) (feeds : List (Handle × Option String)) (s t : Newsroom) :
    Prop where
  size : t.size = s.size
  identity : ∀ i, (t.contact i).identity = (s.contact i).identity
  contact : ∀ i ∉ hs, t.contact i = s.contact i
  roster : t.roster.Sublist s.roster
  count : ∀ i ∉ hs, t.roster.count i = s.roster.count i
  store : Option.Rel (Store.Sparing fun address => ∃ h ∈ hs, (s.contact h).address = address)
    s.store t.store
  trace : ∃ more, t.trace = s.trace ++ more ∧ more.filterMap Entry.fetched? = feeds ∧
    ∀ entry ∈ more, entry.AsksOf hs

namespace Sparing

variable {hs hs' : List Handle} {feeds feeds' : List (Handle × Option String)} {s t u : Newsroom}

theorem address (h : Sparing hs feeds s t) (i : Handle) :
    (t.contact i).address = (s.contact i).address :=
  congrArg Prod.fst (h.identity i)

theorem refl (hs : List Handle) (s : Newsroom) : Sparing hs [] s s where
  size := rfl
  identity _ := rfl
  contact _ _ := rfl
  roster := .refl _
  count _ _ := rfl
  store := by
    cases s.store with
    | none => exact .none
    | some store => exact .some (.refl _ store)
  trace := ⟨[], (List.append_nil _).symm, rfl, fun _ he => nomatch he⟩

theorem trans (h : Sparing hs feeds s t) (h' : Sparing hs feeds' t u) :
    Sparing hs (feeds ++ feeds') s u where
  size := h'.size.trans h.size
  identity i := (h'.identity i).trans (h.identity i)
  contact i hi := (h'.contact i hi).trans (h.contact i hi)
  roster := h'.roster.trans h.roster
  count i hi := (h'.count i hi).trans (h.count i hi)
  store := by
    have hst := h.store
    have htu := h'.store
    simp only [h.address] at htu
    generalize s.store = a, t.store = b, u.store = c at hst htu
    cases hst with
    | none =>
      cases htu
      exact .none
    | some hst =>
      cases htu with
      | some htu => exact .some (hst.trans htu)
  trace := by
    obtain ⟨more, ht, hfeeds, hasks⟩ := h.trace
    obtain ⟨more', hu, hfeeds', hasks'⟩ := h'.trace
    refine ⟨more ++ more', ?_, ?_, fun entry he => ?_⟩
    · rw [hu, ht, List.append_assoc]
    · rw [List.filterMap_append, hfeeds, hfeeds']
    · exact (List.mem_append.mp he).elim (hasks entry) (hasks' entry)

theorem mono (hsub : hs ⊆ hs') (h : Sparing hs feeds s t) : Sparing hs' feeds s t where
  size := h.size
  identity := h.identity
  contact i hi := h.contact i fun hm => hi (hsub hm)
  roster := h.roster
  count i hi := h.count i fun hm => hi (hsub hm)
  store := by
    have hst := h.store
    generalize s.store = a, t.store = b at hst
    cases hst with
    | none => exact .none
    | some hst => exact .some (hst.mono fun _ ⟨i, hi, ha⟩ => ⟨i, hsub hi, ha⟩)
  trace := by
    obtain ⟨more, ht, hfeeds, hasks⟩ := h.trace
    exact ⟨more, ht, hfeeds, fun entry he => (hasks entry he).mono hsub⟩

theorem cons {h : Handle} (hfirst : Sparing [h] feeds s t) (hrest : Sparing hs feeds' t u) :
    Sparing (h :: hs) (feeds ++ feeds') s u := by
  have hsub : [h] ⊆ h :: hs := fun i hi => by
    rw [List.mem_singleton.mp hi]
    exact List.mem_cons_self ..
  exact (hfirst.mono hsub).trans (hrest.mono (List.subset_cons_self ..))

theorem noting (hs : List Handle) (s : Newsroom) (notes : List Journal.Note) :
    Sparing hs [] s (s.noting notes) :=
  { Sparing.refl hs s with
    trace := by
      refine ⟨_, rfl, List.filterMap_eq_nil_iff.mpr fun entry he => ?_, fun entry he => ?_⟩
      all_goals obtain ⟨_, _, rfl⟩ := List.mem_map.mp he
      · rfl
      · trivial }

theorem fetches (h : Sparing hs feeds s t) : t.fetches = s.fetches ++ feeds := by
  obtain ⟨more, htrace, hfeeds, _⟩ := h.trace
  unfold Newsroom.fetches
  rw [htrace, List.filterMap_append, hfeeds]

theorem exists_store (h : Sparing hs feeds s t) {store : Store} (hstore : s.store = some store) :
    ∃ store', t.store = some store' ∧
      store.Sparing (fun address => ∃ h ∈ hs, (s.contact h).address = address) store' := by
  have hst := h.store
  rw [hstore] at hst
  generalize t.store = b at hst
  cases hst with
  | some hst => exact ⟨_, rfl, hst⟩

theorem filed (h : Sparing hs feeds s t) {address : Option String}
    (ha : ∀ j ∈ hs, (s.contact j).address ≠ address) :
    t.store.map (·.only address) = s.store.map (·.only address) := by
  have hst := h.store
  generalize s.store = a, t.store = b at hst
  cases hst with
  | none => rfl
  | some hst => exact congrArg some (hst.only _ fun ⟨j, hj, heq⟩ => ha j hj heq)

theorem affairs (h : Sparing hs feeds s t) {i : Handle} (hi : i ∉ hs)
    (ha : ∀ j ∈ hs, (s.contact j).address ≠ (s.contact i).address) : t.affairs i = s.affairs i := by
  have hasked : t.trace.countP (Entry.asks i) = s.trace.countP (Entry.asks i) := by
    obtain ⟨more, ht, _, hasks⟩ := h.trace
    have hnone : more.countP (Entry.asks i) = 0 := List.countP_eq_zero.mpr fun entry he => by
      have hentry := hasks entry he
      cases entry with
      | asked about question answer =>
        simp only [Entry.asks, decide_eq_true_eq]
        exact fun heq => hi (heq ▸ hentry)
      | _ => exact Bool.false_ne_true
    rw [ht, List.countP_append, hnone, Nat.add_zero]
  unfold Newsroom.affairs
  rw [h.contact i hi, h.count i hi, h.filed ha, hasked]

end Sparing

/-! ### Operations -/

/-- The operation touches only what concerns some contacts, however it ends, and asks for no
feed. -/
def Spares (hs : List Handle) {α : Type} (x : Engine α) : Prop :=
  ∀ s, Sparing hs [] s (exec x s).2

namespace Spares

variable {hs : List Handle} {h : Handle}

theorem record {entry : Entry} (hfetched : entry.fetched? = none) (hasks : entry.AsksOf hs) :
    Spares hs (Newsroom.record entry) := fun s =>
  { Sparing.refl hs s with
    trace := ⟨[entry], rfl, List.filterMap_cons_none hfetched, fun e he => by
      rw [List.mem_singleton.mp he]
      exact hasks⟩ }

theorem edit (hh : h ∈ hs) {change : Contact → Contact}
    (hc : ∀ c, (change c).identity = c.identity) : Spares hs (Newsroom.edit h change) := by
  intro s
  rw [exec_edit]
  refine { Sparing.refl hs s with identity := fun i => ?_, contact := fun i hi => ?_ }
  · by_cases he : i = h
    · rw [he, contact_withContact, hc]
    · rw [contact_withContact_of_ne _ _ he]
  · exact contact_withContact_of_ne _ _ fun he => hi (he ▸ hh)

theorem tell (w : Outside) (topic : Topic) (about : Handle) (event : Event) :
    Spares hs (Newsroom.tell w topic about event) := by
  intro s
  let round := (s.audience topic).tell (w.react topic) event
  have hstart : Sparing hs [] s { s with
      trace := s.trace ++ .happened about event :: round.called.map (.heard topic · event) } := by
    refine { Sparing.refl hs s with trace := ⟨_, rfl, ?_, fun entry he => ?_⟩ }
    · rw [List.filterMap_cons_none rfl]
      refine List.filterMap_eq_nil_iff.mpr fun entry he => ?_
      obtain ⟨_, _, rfl⟩ := List.mem_map.mp he
      rfl
    · rcases List.mem_cons.mp he with rfl | he
      · trivial
      · obtain ⟨_, _, rfl⟩ := List.mem_map.mp he
        trivial
  rw [exec_tell]
  cases topic with
  | messages => exact { hstart with }
  | properties => exact { hstart with }

theorem unsubscribe (hh : h ∈ hs) : Spares hs (Newsroom.unsubscribe h) := by
  intro s
  let off : Newsroom := { s with roster := s.roster.erase h }
  have hoff : Sparing hs [] s off :=
    { Sparing.refl hs s with
      roster := List.erase_sublist
      count := fun i hi => List.count_erase_of_ne fun he : i = h => hi (he ▸ hh) }
  have hnote (text : String) : Spares hs (note .info .roster text) := record rfl trivial
  rw [exec_unsubscribe]
  dsimp only
  split
  · exact .refl hs s
  · split
    · exact hoff.trans (hnote _ off)
    · next store hstore =>
      split
      · exact hoff
      · next deleted hd =>
        have hdeleted : Sparing hs [] s { off with store := some deleted } := by
          refine { hoff with store := ?_ }
          rw [hstore]
          exact .some (.of_delete ⟨h, hh, rfl⟩ hd)
        exact hdeleted.trans (hnote _ _)

end Spares

theorem lookBound_sparing {hs : List Handle} {h : Handle} (hh : h ∈ hs) :
    LookBound h (Sparing hs []) where
  refl := .refl hs
  trans := .trans
  noted _ := Spares.record rfl trivial
  asked _ _ := Spares.record rfl hh
  counted s := { Sparing.refl hs s with }
  presence _ := Spares.edit hh fun _ => rfl
  saved {s} _ _ hstore _ hu := by
    refine { Sparing.refl hs s with store := ?_ }
    rw [hstore]
    exact .some (.of_update ⟨h, hh, rfl⟩ hu)
  unsubscribed := Spares.unsubscribe hh
  named _ := Spares.edit hh fun _ => rfl
  marked _ := Spares.edit hh fun _ => rfl
  told w topic event := Spares.tell w topic h event

theorem sparing_fetching (hs : List Handle) (h : Handle) (s : Newsroom) :
    Sparing hs [(h, (s.contact h).address)] s (s.fetching h) :=
  { Sparing.refl hs s with
    trace := ⟨_, rfl, rfl, fun entry he => by
      rw [List.mem_singleton.mp he]
      trivial⟩ }

/-- A look asks for the feed of its contact, once, and touches only what concerns it. -/
theorem sparing_check {hs : List Handle} {h : Handle} (hh : h ∈ hs) (w : Outside)
    (onRequest : Bool) (s : Newsroom) :
    Sparing hs [(h, (s.contact h).address)] s (exec (check w h onRequest) s).2 :=
  (sparing_fetching hs h s).trans ((lookBound_sparing hh).check w onRequest s)

theorem sparing_refresh {hs : List Handle} {h : Handle} (hh : h ∈ hs) (w : Outside)
    (s : Newsroom) : Sparing hs [(h, (s.contact h).address)] s (exec (refresh w h) s).2 :=
  (sparing_fetching hs h s).trans ((lookBound_sparing hh).refresh w s)

end Newsroom

end Newswire

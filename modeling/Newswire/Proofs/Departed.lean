import Newswire.Proofs.Acts
import Newswire.Proofs.Delivery.Runs

/-!
Contacts that are not in the list, because they were removed or never were in it. Whatever is done
with one of them, the list stays as it is, and so does each contact in it. The store is another
matter: a contact is written into the row of its address, whoever the row was added for. So the
store stays as it is when it holds no row at the address; but a contact that was removed writes its
name, presence and marker over those of one that was subscribed to at the same address later.
-/

namespace Newswire

/-- The rows of an address may bear another name, presence and marker; all else is the same. -/
def Store.Overwritten (address : Option String) (s t : Store) : Prop :=
  ∃ write : Row → Row, t = { s with rows := s.rows.map write } ∧
    ∀ row, write row = row ∨
      some row.address = address ∧ ∃ name c, write row = row.written name c

namespace Store.Overwritten

variable {address : Option String} {s t u : Store} {c : Contact}

theorem refl (address : Option String) (s : Store) : Overwritten address s s :=
  ⟨id, by rw [List.map_id], fun _ => .inl rfl⟩

theorem trans (h : Overwritten address s t) (h' : Overwritten address t u) :
    Overwritten address s u := by
  obtain ⟨first, rfl, hfirst⟩ := h
  obtain ⟨second, rfl, hsecond⟩ := h'
  refine ⟨second ∘ first, by rw [List.map_map], fun row => ?_⟩
  rcases hfirst row with hrow | ⟨haddress, name, c, hrow⟩
  · rw [Function.comp_apply, hrow]
    exact hsecond row
  · refine .inr ⟨haddress, ?_⟩
    rw [Function.comp_apply, hrow]
    rcases hsecond (row.written name c) with hsame | ⟨_, name', c', hagain⟩
    · exact ⟨name, c, hsame⟩
    · exact ⟨name', c', hagain⟩

theorem of_update (h : s.update c = .ok t) : Overwritten c.address s t := by
  obtain ⟨name, rfl, _⟩ := eq_of_update h
  refine ⟨writing name c, rfl, fun row => ?_⟩
  unfold writing
  split
  · next heq => exact .inr ⟨beq_iff_eq.mp heq, name, c, rfl⟩
  · exact .inl rfl

theorem eq_of_not_holds (h : Overwritten address s t) (hno : ¬ s.holds address = true) :
    t = s := by
  obtain ⟨write, rfl, hwrite⟩ := h
  have hsame : ∀ row ∈ s.rows, write row = row := fun row hrow =>
    (hwrite row).resolve_right fun hown => hno (holds_iff.mpr ⟨row, hrow, hown.1⟩)
  rw [List.map_congr_left hsame, List.map_id']

end Store.Overwritten

namespace Newsroom

variable {s t : Newsroom} {h : Handle}

/-- What can become of a newsroom by what is done with a contact that is not in its list. -/
structure Outlasts (h : Handle) (s t : Newsroom) : Prop where
  roster : t.roster = s.roster
  contact : ∀ i, i ≠ h → t.contact i = s.contact i
  identity : (t.contact h).identity = (s.contact h).identity
  store : Option.Rel (Store.Overwritten (s.contact h).address) s.store t.store
  passing : ¬ (s.contact h).persistent = true → t.store = s.store

namespace Outlasts

theorem of_same (hroster : t.roster = s.roster) (hcontact : t.contact = s.contact)
    (hstore : t.store = s.store) : Outlasts h s t where
  roster := hroster
  contact i _ := congrFun hcontact i
  identity := by rw [hcontact]
  store := by
    rw [hstore]
    cases s.store with
    | none => exact .none
    | some store => exact .some (.refl _ store)
  passing _ := hstore

theorem trans {u : Newsroom} (hst : Outlasts h s t) (htu : Outlasts h t u) : Outlasts h s u where
  roster := htu.roster.trans hst.roster
  contact i hi := (htu.contact i hi).trans (hst.contact i hi)
  identity := htu.identity.trans hst.identity
  store := by
    have haddress : (t.contact h).address = (s.contact h).address := congrArg Prod.fst hst.identity
    have hfirst := hst.store
    have hsecond := htu.store
    rw [haddress] at hsecond
    generalize s.store = a, t.store = b, u.store = c at hfirst hsecond
    cases hfirst with
    | none => exact hsecond
    | some hfirst =>
      cases hsecond with
      | some hsecond => exact .some (hfirst.trans hsecond)
  passing hp := by
    have hpersistent : (t.contact h).persistent = (s.contact h).persistent :=
      congrArg (·.2.1) hst.identity
    exact (htu.passing (hpersistent ▸ hp)).trans (hst.passing hp)

theorem edit {change : Contact → Contact} (hc : ∀ c, (change c).identity = c.identity) :
    Outlasts h s (exec (Newsroom.edit h change) s).2 :=
  { of_same (s := s) rfl rfl rfl with
    contact := fun i hi => contact_withContact_of_ne s _ hi
    identity := by
      rw [exec_edit, contact_withContact]
      exact hc _ }

end Outlasts

/-- No step that is done with a contact that is not in the list goes further than that. -/
theorem lookBound_outlasts (h : Handle) :
    LookBound h fun s t => h ∉ s.roster → Outlasts h s t where
  refl _ _ := .of_same rfl rfl rfl
  trans hst htu hh := (hst hh).trans (htu ((hst hh).roster ▸ hh))
  noted _ _ _ := .of_same rfl rfl rfl
  asked _ _ _ _ := .of_same rfl rfl rfl
  counted _ _ := .of_same rfl rfl rfl
  presence _ _ _ := .edit fun _ => rfl
  saved {s} _ _ hstore hp hu _ :=
    { Outlasts.of_same (s := s) rfl rfl rfl with
      store := by
        rw [hstore]
        exact .some (.of_update hu)
      passing := fun hno => absurd hp hno }
  unsubscribed s hh := by
    rw [exec_unsubscribe, if_pos hh]
    exact .of_same rfl rfl rfl
  named _ _ _ := .edit fun _ => rfl
  marked _ _ _ := .edit fun _ => rfl
  told w topic event s _ := by
    have hkept : Keeps (fun s : Newsroom => (s.roster, s.contact, s.store)) (tell w topic h event) :=
      .tell (fun _ _ => rfl) (fun _ topic _ => by cases topic <;> rfl) w topic h event
    have hsame := hkept s
    exact .of_same (congrArg Prod.fst hsame) (congrArg (·.2.1) hsame) (congrArg (·.2.2) hsame)

theorem outlasts_act (hh : h ∉ s.roster) (w : Outside) {act : Act} (hact : act.about s = [h]) :
    Outlasts h s (s.pass ⟨w, act⟩) := by
  have b := lookBound_outlasts h
  have hfetching (s : Newsroom) (_ : h ∉ s.roster) : Outlasts h s (s.fetching h) :=
    .of_same rfl rfl rfl
  unfold Newsroom.pass
  cases act with
  | load | subscribe | addListener | removeListener | register | connect | close | anew
  | restart => cases hact
  | sweep =>
    have hroster : s.roster = [h] := hact
    exact absurd (hroster ▸ List.mem_singleton_self h) hh
  | unsubscribe i =>
    cases hact
    exact b.unsubscribed s hh
  | setPresence i p =>
    cases hact
    exact b.setPresence p s hh
  | goOffline i =>
    cases hact
    simp only [Act.run, exec_discard]
    exact b.goOffline s hh
  | propertyChanged i property old new =>
    cases hact
    exact b.propertyChanged w property old new s hh
  | check i onRequest =>
    cases hact
    simp only [Act.run, exec_discard]
    exact (hfetching s hh).trans (b.check w onRequest s hh)
  | refresh i =>
    cases hact
    exact (hfetching s hh).trans (b.refresh w s hh)
  | send i message =>
    cases hact
    exact b.send hfetching w message s hh
  | reportGone i =>
    cases hact
    exact b.reportGone w s hh

/-- The contact is one that is stored, and the store holds a row at its address. -/
def Succeeded (s : Newsroom) (h : Handle) : Prop :=
  (s.contact h).persistent = true ∧
    ∃ store, s.store = some store ∧ store.holds (s.contact h).address = true

theorem Outlasts.store_eq (ht : Outlasts h s t) (hno : ¬ s.Succeeded h) : t.store = s.store := by
  by_cases hp : (s.contact h).persistent = true
  · have hover := ht.store
    cases hstore : s.store with
    | none =>
      rw [hstore] at hover
      generalize t.store = b at hover
      cases hover
      rfl
    | some store =>
      have hfree : ¬ store.holds (s.contact h).address = true := fun hheld =>
        hno ⟨hp, store, hstore, hheld⟩
      rw [hstore] at hover
      generalize t.store = b at hover
      cases hover with
      | some hover => rw [hover.eq_of_not_holds hfree]
  · exact ht.passing hp

theorem Outlasts.contacts (ht : Outlasts h s t) (hh : h ∉ s.roster) : t.contacts = s.contacts := by
  unfold Newsroom.contacts
  rw [ht.roster]
  refine List.map_congr_left fun i hi => ht.contact i ?_
  rintro rfl
  exact hh hi

theorem store_setPresence {store : Store} (hstore : s.store = some store)
    (hp : (s.contact h).persistent = true) (htakes : store.Takes (s.contact h)) (w : Outside)
    (p : Presence) : ∃ name, (s.pass ⟨w, .setPresence h p⟩).store
      = some { store with
          rows := store.rows.map (Store.writing name { s.contact h with presence := p }) } := by
  obtain ⟨notes, hset⟩ := exec_setPresence h p s
  let changed := (s.withContact h { s.contact h with presence := p }).noting notes
  have hchanged : changed.contact h = { s.contact h with presence := p } := contact_withContact ..
  have htaken : store.Takes { s.contact h with presence := p } := htakes
  obtain ⟨store', hupdate⟩ := Store.exists_update_iff.mpr htaken
  obtain ⟨name, hwritten, _⟩ := Store.eq_of_update hupdate
  refine ⟨name, ?_⟩
  have hsave : (exec (save h) changed).2.store = some store' := by
    have hsame : changed.store = some store := hstore
    rw [exec_save, hsame, hchanged]
    dsimp only
    rw [if_pos hp, hupdate]
  rw [← hwritten, ← hsave]
  exact congrArg (·.2.store) hset

/-- What a contact that is not in the list can do. The list stays as it is, with each contact in it,
and of the store nothing changes but names, presences and markers in the rows of its address. So the
store stays as it is when there is no such row or the contact is not one that is stored. Otherwise,
if the store takes the contact at all, one of the two presences is written over what the row says. -/
theorem departed_reaches_successor_only (hh : h ∉ s.roster) (w : Outside) :
    (∀ act : Act, act.about s = [h] →
      (s.pass ⟨w, act⟩).roster = s.roster ∧ (s.pass ⟨w, act⟩).contacts = s.contacts ∧
        Option.Rel (Store.Overwritten (s.contact h).address) s.store (s.pass ⟨w, act⟩).store ∧
        (¬ s.Succeeded h → (s.pass ⟨w, act⟩).store = s.store)) ∧
      ((∀ store, s.store = some store → store.Takes (s.contact h)) → s.Succeeded h →
        ∃ p, (s.pass ⟨w, .setPresence h p⟩).store ≠ s.store) := by
  constructor
  · intro act hact
    have ht : Outlasts h s (s.pass ⟨w, act⟩) := outlasts_act hh w hact
    exact ⟨ht.roster, ht.contacts hh, ht.store, ht.store_eq⟩
  · rintro htakes ⟨hp, store, hstore, hheld⟩
    obtain ⟨row, hrow, haddress⟩ := Store.holds_iff.mp hheld
    refine Classical.byContradiction fun hno => ?_
    have hword (p : Presence) : row.presence = p.word := by
      obtain ⟨name, hwritten⟩ := store_setPresence hstore hp (htakes store hstore) w p
      have hsame : (s.pass ⟨w, .setPresence h p⟩).store = s.store :=
        Classical.byContradiction fun hne => hno ⟨p, hne⟩
      let changed : Contact := { s.contact h with presence := p }
      have hrows : store.rows.map (Store.writing name changed) = store.rows.map id := by
        rw [List.map_id]
        exact congrArg Store.rows (Option.some.inj (hwritten.symm.trans (hsame.trans hstore)))
      have hkept : Store.writing name changed row = row := List.map_inj_left.mp hrows row hrow
      have hown : (some row.address == changed.address) = true := beq_iff_eq.mpr haddress
      rw [Store.writing, if_pos hown] at hkept
      exact (congrArg Row.presence hkept).symm
    exact absurd ((hword .online).symm.trans (hword .offline)) (by decide)

/-- Someone subscribes to a feed, ends that subscription and does or does not subscribe again. -/
def resubscribing (again : Bool) : List Turn :=
  let w := Outside.showing (Feed.bare ["first"])
  let subscription : Turn := ⟨w, .subscribe (some "a") (.text "News")⟩
  [subscription, ⟨w, .unsubscribe 0⟩] ++ if again then [subscription] else []

/-- A look at a contact that was removed, although it brings news, is not stored. -/
theorem look_after_removal_not_stored :
    let s := blank.course (resubscribing false)
    let w := Outside.showing (Feed.bare ["first"])
    (s.pass ⟨w, .check 0 true⟩).store = s.store := by
  intro s w
  have hgone : 0 ∉ s.roster := List.not_mem_nil
  have hfree : ¬ s.Succeeded 0 := by
    rintro ⟨_, store, hstore, hheld⟩
    cases hstore
    cases hheld
  obtain ⟨hspared, _⟩ := departed_reaches_successor_only hgone w
  exact (hspared (.check 0 true) rfl).2.2.2 hfree

theorem reachable_resubscribing : (blank.course (resubscribing true)).Reachable := by
  have hstart : blank.Reachable := .start fun _ hst => Option.some.inj hst ▸ .nil
  have hsubscribed := hstart.act (.showing (Feed.bare ["first"]))
    (.subscribe (some "a") (.text "News")) fun _ hm => nomatch hm
  have hended := hsubscribed.act (.showing (Feed.bare ["first"])) (.unsubscribe 0) fun i hi =>
    List.mem_singleton.mp hi ▸ Nat.zero_lt_one
  exact hended.act (.showing (Feed.bare ["first"])) (.subscribe (some "a") (.text "News"))
    fun _ hm => nomatch hm

/-- It is not so that a contact that was removed cannot touch the store: after another subscription
to its address, its presence is written over that of the new contact. -/
theorem removed_contact_written_over_successor :
    ¬ ∀ (s : Newsroom) (h : Handle) (w : Outside) (act : Act), s.Reachable → h < s.size →
      h ∉ s.roster → act.about s = [h] → (s.pass ⟨w, act⟩).store = s.store := by
  intro hall
  let s := blank.course (resubscribing true)
  let w := Outside.showing (Feed.bare ["first"])
  have hgone : 0 ∉ s.roster := by decide
  have hsame := hall s 0 w (.setPresence 0 .offline) reachable_resubscribing (by decide) hgone rfl
  have hpresences : (s.pass ⟨w, .setPresence 0 .offline⟩).store.map (·.rows.map Row.presence)
      = s.store.map (·.rows.map Row.presence) := congrArg _ hsame
  have hoffline : (s.pass ⟨w, .setPresence 0 .offline⟩).store.map (·.rows.map Row.presence)
      = some ["offline"] := rfl
  have honline : s.store.map (·.rows.map Row.presence) = some ["online"] := rfl
  rw [hoffline, honline] at hpresences
  exact absurd hpresences (by decide)

end Newsroom

end Newswire

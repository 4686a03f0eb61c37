import Newswire.Proofs.Acts

/-!
Who is in the list and in the table. What is done with contacts that are there puts nobody in; a
contact leaves only when its subscription is ended, and with it the row of its address, if the store
can remove it. All others keep their place, and of a contact or a row only name, presence and marker
ever change.
-/

namespace Newswire

/-- What of a row never changes. -/
def Row.stub (row : Row) : Row :=
  { row with name := "", presence := "", marker := none }

namespace Store

variable {s t u : Store} {c : Contact} {address : Option String} {own other : List (Option String)}

def stubs (s : Store) : List Row :=
  s.rows.map Row.stub

/-- The rows of the address can be removed. -/
def clears (s : Store) (address : Option String) : Bool :=
  s.isOpen && (address.mapM textCell).isOk

def stays (s : Store) (own : List (Option String)) (row : Row) : Bool :=
  some row.address ∉ own || !s.clears row.address

theorem isOk_delete (s : Store) (address : Option String) :
    (s.delete address).isOk = s.clears address := by
  unfold delete clears checkOpen
  cases s.isOpen with
  | false => rfl
  | true => cases address.mapM textCell <;> rfl

theorem stubs_update (h : s.update c = .ok t) : t.stubs = s.stubs := by
  obtain ⟨name, rfl, _⟩ := eq_of_update h
  unfold stubs
  rw [List.map_map]
  refine List.map_congr_left fun row _ => ?_
  rw [Function.comp_apply, writing]
  split
  · rfl
  · rfl

/-- The store has lost the rows of some addresses, as far as they could be removed. -/
structure Lacking (own : List (Option String)) (s t : Store) : Prop where
  isOpen : t.isOpen = s.isOpen
  lastId : t.lastId = s.lastId
  stubs : t.stubs = s.stubs.filter (s.stays own)

namespace Lacking

theorem clears (h : Lacking own s t) (address : Option String) :
    t.clears address = s.clears address := by
  unfold Store.clears
  rw [h.isOpen]

theorem filter_stays_nil (s : Store) : s.stubs.filter (s.stays []) = s.stubs :=
  List.filter_eq_self.mpr fun row _ => by
    rw [stays, decide_eq_true List.not_mem_nil, Bool.true_or]

theorem stubs_eq (h : Lacking [] s t) : t.stubs = s.stubs := by
  rw [h.stubs, filter_stays_nil]

theorem of_stubs (ho : t.isOpen = s.isOpen) (hl : t.lastId = s.lastId) (h : t.stubs = s.stubs) :
    Lacking [] s t where
  isOpen := ho
  lastId := hl
  stubs := by rw [h, filter_stays_nil]

theorem trans (h : Lacking own s t) (h' : Lacking other t u) : Lacking (own ++ other) s u where
  isOpen := h'.isOpen.trans h.isOpen
  lastId := h'.lastId.trans h.lastId
  stubs := by
    rw [h'.stubs, h.stubs, List.filter_filter]
    refine List.filter_congr fun row _ => ?_
    simp only [stays, h.clears, List.mem_append, not_or]
    cases s.clears row.address <;> simp [Bool.and_comm]

theorem congr (hsame : ∀ address, address ∈ own ↔ address ∈ other) (h : Lacking own s t) :
    Lacking other s t :=
  { h with
    stubs := by
      rw [h.stubs]
      refine List.filter_congr fun row _ => ?_
      simp only [stays, hsame] }

theorem of_update (h : s.update c = .ok t) : Lacking [] s t := by
  obtain ⟨name, ht, _⟩ := eq_of_update h
  exact of_stubs (by rw [ht]) (by rw [ht]) (stubs_update h)

theorem of_delete {found : Bool} (h : s.delete address = .ok (found, t)) :
    Lacking [address] s t := by
  have hclears : s.clears address = true := by
    rw [← isOk_delete, h]
    rfl
  have hstays : (s.stays [address] ∘ Row.stub) = fun row => some row.address != address := by
    funext row
    by_cases heq : some row.address = address
    · subst heq
      simp [stays, Row.stub, hclears]
    · simp [stays, Row.stub, heq]
  rw [eq_of_delete h]
  refine ⟨rfl, rfl, ?_⟩
  unfold Store.stubs
  rw [List.filter_map, hstays]

theorem of_not_deleted {fault : Fault} (h : s.delete address = .error fault) :
    Lacking [address] s s := by
  have hclears : s.clears address = false := by
    rw [← isOk_delete, h]
    rfl
  refine ⟨rfl, rfl, (List.filter_eq_self.mpr fun row _ => ?_).symm⟩
  by_cases heq : some row.address = address
  · rw [stays, heq, hclears, Bool.not_false, Bool.or_true]
  · simp [stays, heq]

end Lacking

end Store

namespace Newsroom

variable {s t u : Newsroom} {h : Handle} {gone gone' : List Handle} {w : Outside}

/-- The addresses of those of some contacts that are in the list. -/
def leaving (s : Newsroom) (gone : List Handle) : List (Option String) :=
  (s.roster.filter (· ∈ gone)).map fun h => (s.contact h).address

theorem leaving_nil (s : Newsroom) : s.leaving [] = [] := by
  simp only [leaving, List.not_mem_nil, decide_false, List.filter_false, List.map_nil]

/-- Some contacts have left the list and, as far as the store could remove them, their rows the
table. -/
structure Without (gone : List Handle) (s t : Newsroom) : Prop where
  identity : ∀ i, (t.contact i).identity = (s.contact i).identity
  roster : t.roster = s.roster.filter (· ∉ gone)
  store : Option.Rel (Store.Lacking (s.leaving gone)) s.store t.store

namespace Without

theorem address (h : Without gone s t) (i : Handle) :
    (t.contact i).address = (s.contact i).address :=
  congrArg Prod.fst (h.identity i)

theorem nodup (h : Without gone s t) (hs : s.roster.Nodup) : t.roster.Nodup := by
  rw [h.roster]
  exact hs.filter _

theorem of_same (hidentity : ∀ i, (t.contact i).identity = (s.contact i).identity)
    (hroster : t.roster = s.roster) (hstore : Option.Rel (Store.Lacking []) s.store t.store) :
    Without [] s t where
  identity := hidentity
  roster := by
    have hall : ∀ i ∈ s.roster, decide (i ∉ ([] : List Handle)) = true := fun i _ =>
      decide_eq_true List.not_mem_nil
    rw [hroster, List.filter_eq_self.mpr hall]
  store := by rwa [leaving_nil]

theorem refl_store (store : Option Store) : Option.Rel (Store.Lacking []) store store := by
  cases store with
  | none => exact .none
  | some store => exact .some (.of_stubs rfl rfl rfl)

theorem refl (s : Newsroom) : Without [] s s :=
  of_same (fun _ => rfl) rfl (refl_store s.store)

theorem exists_store (h : Without gone s t) {store : Store} (hstore : s.store = some store) :
    ∃ left, t.store = some left ∧ store.Lacking (s.leaving gone) left := by
  have hst := h.store
  rw [hstore] at hst
  generalize t.store = b at hst
  cases hst with
  | some hlost => exact ⟨_, rfl, hlost⟩

theorem stays (h : Without [] s t) :
    t.roster = s.roster ∧ t.store.map Store.stubs = s.store.map Store.stubs := by
  constructor
  · rw [h.roster]
    exact List.filter_eq_self.mpr fun i _ => decide_eq_true List.not_mem_nil
  · have hst := h.store
    rw [leaving_nil] at hst
    generalize s.store = a, t.store = b at hst
    cases hst with
    | none => rfl
    | some hst => exact congrArg some hst.stubs_eq

theorem mem_leaving_append (h : Without gone s t) (address : Option String) :
    address ∈ s.leaving gone ++ t.leaving gone' ↔ address ∈ s.leaving (gone ++ gone') := by
  simp only [leaving, List.mem_append, List.mem_map, List.mem_filter, decide_eq_true_eq, h.roster,
    h.address]
  grind

theorem trans (h : Without gone s t) (h' : Without gone' t u) : Without (gone ++ gone') s u where
  identity i := (h'.identity i).trans (h.identity i)
  roster := by
    rw [h'.roster, h.roster, List.filter_filter]
    refine List.filter_congr fun i _ => ?_
    simp only [List.mem_append, not_or, Bool.decide_and, Bool.and_comm]
  store := by
    have hsame : ∀ address, address ∈ s.leaving gone ++ t.leaving gone' ↔
        address ∈ s.leaving (gone ++ gone') := h.mem_leaving_append
    have hst := h.store
    have htu := h'.store
    generalize s.store = a, t.store = b, u.store = c at hst htu
    cases hst with
    | none =>
      cases htu
      exact .none
    | some hst =>
      cases htu with
      | some htu => exact .some ((hst.trans htu).congr hsame)

end Without

theorem leaving_singleton (hs : s.roster.Nodup) (hm : h ∈ s.roster) :
    s.leaving [h] = [(s.contact h).address] := by
  have hself : s.roster.filter (· ∈ [h]) = [h] := by
    have hmem : (fun i => decide (i ∈ [h])) = (· == h) := by
      funext i
      rw [Bool.beq_eq_decide_eq, decide_eq_decide]
      exact List.mem_singleton
    rw [hmem, List.filter_beq, List.count_eq_one_of_mem hs hm, List.replicate_one]
  rw [leaving, hself, List.map_singleton]

theorem Without.of_not_mem (hm : h ∉ s.roster) : Without [h] s s := by
  have hothers : ∀ i ∈ s.roster, i ∉ [h] := fun i hi hih => hm (List.mem_singleton.mp hih ▸ hi)
  have hleaving : s.leaving [h] = [] := by
    have hnone : s.roster.filter (· ∈ [h]) = [] := by
      refine List.filter_eq_nil_iff.mpr fun i hi hih => hothers i hi (of_decide_eq_true hih)
    rw [leaving, hnone, List.map_nil]
  refine ⟨fun _ => rfl, ?_, ?_⟩
  · exact (List.filter_eq_self.mpr fun i hi => decide_eq_true (hothers i hi)).symm
  · rw [hleaving]
    exact Without.refl_store s.store

theorem without_unsubscribe (hs : s.roster.Nodup) (h : Handle) :
    Without [h] s (exec (unsubscribe h) s).2 := by
  rw [exec_unsubscribe]
  by_cases hm : h ∈ s.roster
  · have hroster : s.roster.erase h = s.roster.filter (· ∉ [h]) := by
      rw [hs.erase_eq_filter]
      refine List.filter_congr fun i _ => ?_
      simp only [bne, List.mem_singleton, decide_not]
      rfl
    have hleaving := leaving_singleton hs hm
    rw [if_neg (not_not.mpr hm)]
    dsimp only
    cases hstore : s.store with
    | none =>
      refine ⟨fun _ => rfl, hroster, ?_⟩
      rw [hstore]
      exact .none
    | some store =>
      dsimp only
      rcases hdelete : store.delete (s.contact h).address with fault | ⟨found, deleted⟩
      · refine ⟨fun _ => rfl, hroster, ?_⟩
        rw [hleaving, hstore]
        exact .some (.of_not_deleted hdelete)
      · refine ⟨fun _ => rfl, hroster, ?_⟩
        rw [hleaving, hstore]
        exact .some (.of_delete hdelete)
  · rw [if_pos hm]
    exact .of_not_mem hm

end Newsroom

end Newswire

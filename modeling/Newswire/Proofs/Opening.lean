import Newswire.Main
import Newswire.Proofs.Answering
import Newswire.Proofs.Representation

/-!
How the program opens. What the table holds is loaded into the list, and then each address that the
user names is subscribed to unless it is in the list. Since nothing is in the table that is not in
the list, and nothing comes into the one that does not come into the other, no address is refused
because it is known, however often it is named. Then each feed in the list is asked for once.
-/

namespace Newswire

/-- The contact of an address, as it is when it was subscribed to under no other name. -/
def Contact.newcomer (now : Moment) (address : String) (id : Nat) : Contact :=
  { Contact.fresh (some address) .null now with id := some id }

namespace Store

variable {s : Store} {address : String} {rest : List String} {now : Moment}

/-! ### Addresses that are new -/

/-- The addresses that no row has, each where it comes first. -/
def unknown (s : Store) (addresses : List String) : List String :=
  (addresses.filter fun a => !s.holds (some a)).eraseDups

/-- The table, with a row for a new address. -/
def entering (s : Store) (address : String) (now : Moment) : Store :=
  { s with
    rows := s.rows ++ [rowOf (s.lastId + 1) address address now (.fresh (some address) .null now)]
    lastId := s.lastId + 1 }

theorem holds_entering (s : Store) (address other : String) (now : Moment) :
    (s.entering address now).holds (some other) = (s.holds (some other) || other == address) := by
  have hrow : (some address == some other) = (other == address) := by
    rw [Bool.eq_iff_iff, beq_iff_eq, beq_iff_eq, Option.some_inj, eq_comm]
  unfold holds entering
  rw [List.any_append, List.any_cons, List.any_nil, Bool.or_false]
  exact congrArg (_ || ·) hrow

theorem unknown_cons_of_holds (h : s.holds (some address) = true) :
    s.unknown (address :: rest) = s.unknown rest := by
  unfold unknown
  rw [List.filter_cons_of_neg]
  rw [h]
  exact Bool.false_ne_true

theorem unknown_cons_of_not_holds (h : s.holds (some address) = false) (now : Moment) :
    s.unknown (address :: rest) = address :: (s.entering address now).unknown rest := by
  have hnew : (fun a => !s.holds (some a)) address = true := by
    show (!s.holds (some address)) = true
    rw [h, Bool.not_false]
  unfold unknown
  rw [List.filter_cons_of_pos (p := fun a => !s.holds (some a)) hnew, List.eraseDups_cons,
    List.filter_filter]
  refine congrArg (address :: ·) (congrArg List.eraseDups (List.filter_congr fun other _ => ?_))
  rw [holds_entering, Bool.not_or, Bool.and_comm]

theorem holds_of_prefix {t : Store} {address : Option String} (hrows : s.rows <+: t.rows)
    (h : s.holds address = true) : t.holds address = true := by
  obtain ⟨row, hrow, hown⟩ := holds_iff.mp h
  exact holds_iff.mpr ⟨row, hrows.subset hrow, hown⟩

theorem add_newcomer (hopen : s.isOpen = true) (hnew : s.holds (some address) = false)
    (hlegible : Text.loneHalves? address = none) (now : Moment) :
    s.add (.fresh (some address) .null now)
      = .ok (.newcomer now address (s.lastId + 1), s.entering address now) := by
  have hlasting := Contact.lasting_fresh address (.inl rfl : Value.null = .null ∨ _) now
  have hlegible' : (Contact.wished address .null).findSome? Text.loneHalves? = none := by
    show [address].findSome? Text.loneHalves? = none
    rw [List.findSome?_singleton, hlegible]
  have haddress : (Contact.fresh (some address) .null now).address = some address := rfl
  rw [add_eq hopen rfl hlasting rfl rfl, unlessRefused, Contact.halves_fresh address (.inl rfl),
    hlegible', haddress, hnew]
  rfl

theorem all_entering {cs : List Contact} (hall : s.all now = .ok cs) (hnow : now.Legible)
    (address : String) :
    (s.entering address now).all now = .ok (cs ++ [.newcomer now address (s.lastId + 1)]) := by
  obtain ⟨hopen, hrows⟩ := all_eq_ok_iff.mp hall
  have hread : (rowOf (s.lastId + 1) address address now (.fresh (some address) .null now)).contact
      now = .ok (.newcomer now address (s.lastId + 1)) := by
    rw [contact_rowOf, hnow.asRead_eq]
    rfl
  exact all_eq_ok_iff.mpr ⟨hopen, List.rel_append hrows (.cons hread .nil)⟩

end Store

namespace Startup

open Newsroom

variable {s t : Newsroom} {table : Store} {w : Outside} {address : String}

/-! ### Setting up -/

/-- The list is what is read of the table, and nothing but notes has been written down. -/
structure Opened (s : Newsroom) (table : Store) (now : Moment) : Prop where
  store : s.store = some table
  ready : table.Ready
  known : ∀ h ∈ s.roster, h < s.size
  all : table.all now = .ok s.contacts
  notes : ∃ notes : List Journal.Note, s.trace = notes.map .noted

namespace Opened

theorem lists_eq {now : Moment} (hs : Opened s table now) (address : Option String) :
    s.lists address = table.holds address := by
  rw [Bool.eq_iff_iff, ← mem_addresses_iff, Store.addresses_of_all hs.all, List.mem_map,
    Store.holds_iff]

theorem noting {now : Moment} (hs : Opened s table now) (notes : List Journal.Note) :
    Opened (s.noting notes) table now := by
  obtain ⟨past, hpast⟩ := hs.notes
  refine { hs with notes := ⟨past ++ notes, ?_⟩ }
  show s.trace ++ notes.map .noted = (past ++ notes).map .noted
  rw [hpast, List.map_append]

theorem load {store : Store} (hready : store.Ready) (w : Outside) (clockwork : Clockwork) :
    ∃ n t, exec (Newsroom.load w) (empty (some store) clockwork) = (.ok n, t) ∧
      Opened t store w.now := by
  obtain ⟨stored, hall⟩ := hready.toSound.exists_all hready.isOpen w.now
  let s := empty (some store) clockwork
  have hnew : (stored.filter fun c => !s.lists c.address) = stored :=
    List.filter_eq_self.mpr fun _ _ => rfl
  have hgrown : Grown stored s (s.enlistingAll stored) :=
    grown_enlistingAll stored fun _ hm => nomatch hm
  have hloaded : Opened (s.enlistingAll stored) store w.now := {
    store := hgrown.store
    ready := hready
    known := hgrown.known
    all := by
      rw [hgrown.contacts]
      exact hall
    notes := ⟨[], hgrown.trace⟩ }
  refine ⟨stored.length, _, ?_, hloaded.noting
    [⟨.info, .roster, "Loaded " ++ toString stored.length ++ " feed contacts", none⟩]⟩
  have hrun := exec_load w s
  have hstore : s.store = some store := rfl
  rw [hstore] at hrun
  simp only [hall, hnew] at hrun
  exact hrun

theorem subscribe (hs : Opened s table w.now) (hnow : w.now.Legible)
    (hnew : s.lists (some address) = false) (hlegible : Text.loneHalves? address = none) :
    ∃ h t, exec (Newsroom.subscribe w (some address) .null) s = (.ok h, t) ∧
      Opened t (table.entering address w.now) w.now ∧
      t.contacts = s.contacts ++ [.newcomer w.now address (table.lastId + 1)] := by
  have hadd := Store.add_newcomer hs.ready.isOpen ((hs.lists_eq _).symm.trans hnew) hlegible w.now
  let c := Contact.newcomer w.now address (table.lastId + 1)
  let u : Newsroom := { s with store := some (table.entering address w.now) }
  have hgrown : Grown [c] u (u.enlisting c) := grown_enlistingAll [c] hs.known
  have hcontacts : (u.enlisting c).contacts = s.contacts ++ [c] := hgrown.contacts
  have henlisted : Opened (u.enlisting c) (table.entering address w.now) w.now := {
    store := hgrown.store
    ready := hs.ready.add hadd
    known := hgrown.known
    all := by
      rw [hcontacts]
      exact Store.all_entering hs.all hnow address
    notes := hs.notes }
  refine ⟨s.size, _, ?_, henlisted.noting
    [⟨.info, .roster, "Subscribed to " ++ addressText (some address), none⟩], hcontacts⟩
  rw [exec_subscribe, hnew, if_neg Bool.false_ne_true, hs.store]
  dsimp only
  rw [hadd]

end Opened

theorem exec_subscribeNew_cons (w : Outside) (address : Option String) (rest : List (Option String))
    (s : Newsroom) : exec (subscribeNew w (address :: rest)) s =
      if s.lists address then exec (subscribeNew w rest) s
      else match exec (Newsroom.subscribe w address .null) s with
        | (.ok _, t) => exec (subscribeNew w rest) t
        | (.error fault, t) => (.error fault, t) := by
  rw [subscribeNew, exec_bind, exec_get]
  dsimp only
  cases s.lists address with
  | true => rfl
  | false =>
    rw [Bool.not_false, if_pos rfl, if_neg Bool.false_ne_true, exec_bind, exec_discard]
    rcases exec (Newsroom.subscribe w address .null) s with ⟨fault | h, t⟩
    · rfl
    · rfl

theorem subscribeNew_of_lists {addresses : List (Option String)}
    (h : ∀ address ∈ addresses, s.lists address = true) :
    exec (subscribeNew w addresses) s = (.ok (), s) := by
  induction addresses with
  | nil => rfl
  | cons address rest ih =>
    obtain ⟨hfirst, hrest⟩ := List.forall_mem_cons.mp h
    rw [exec_subscribeNew_cons, hfirst, if_pos rfl]
    exact ih hrest

def newcomers (table : Store) (now : Moment) (addresses : List String) : List Contact :=
  ((table.unknown addresses).zipIdx (table.lastId + 1)).map fun p => .newcomer now p.1 p.2

/-- Each new address comes into list and table once, whatever else is named and how often. -/
theorem Opened.subscribeNew {addresses : List String} (hs : Opened s table w.now)
    (hnow : w.now.Legible) (hlegible : ∀ address ∈ addresses, Text.loneHalves? address = none) :
    ∃ t held, exec (subscribeNew w (addresses.map some)) s = (.ok (), t) ∧
      Opened t held w.now ∧ table.rows <+: held.rows ∧
      (∀ address ∈ addresses, held.holds (some address) = true) ∧
      t.contacts = s.contacts ++ newcomers table w.now addresses := by
  -- over any list and table: when the others are looked at, the first is in both
  induction addresses generalizing s table with
  | nil =>
    exact ⟨s, table, rfl, hs, List.prefix_rfl, fun _ hm => (nomatch hm),
      (List.append_nil _).symm⟩
  | cons address rest ih =>
    obtain ⟨hfirst, hrest⟩ := List.forall_mem_cons.mp hlegible
    rw [List.map_cons, exec_subscribeNew_cons]
    cases hlists : s.lists (some address) with
    | true =>
      have hholds : table.holds (some address) = true := (hs.lists_eq _).symm.trans hlists
      obtain ⟨t, held, hrun, ht, hrows, hheld, hcontacts⟩ := ih hs hrest
      rw [if_pos rfl]
      refine ⟨t, held, hrun, ht, hrows, List.forall_mem_cons.mpr ⟨?_, hheld⟩, ?_⟩
      · exact Store.holds_of_prefix hrows hholds
      · rw [hcontacts, newcomers, newcomers, Store.unknown_cons_of_holds hholds]
    | false =>
      have hholds : table.holds (some address) = false := (hs.lists_eq _).symm.trans hlists
      obtain ⟨h, u, hrun, hu, hcontacts⟩ := hs.subscribe hnow hlists hfirst
      obtain ⟨t, held, hrun', ht, hrows, hheld, hcontacts'⟩ := ih hu hrest
      have hentered : (table.entering address w.now).holds (some address) = true := by
        rw [Store.holds_entering, beq_self_eq_true, Bool.or_true]
      rw [if_neg Bool.false_ne_true, hrun]
      refine ⟨t, held, hrun', ht, (List.prefix_append _ _).trans hrows,
        List.forall_mem_cons.mpr ⟨Store.holds_of_prefix hrows hentered, hheld⟩, ?_⟩
      rw [hcontacts', hcontacts, newcomers, newcomers,
        Store.unknown_cons_of_not_holds hholds w.now, List.zipIdx_cons, List.map_cons,
        List.append_assoc, List.singleton_append]
      rfl

/-! ### The first round -/

/-- What the refresh of a contact sends: a message about the items that are new to it, be there any
or not, if its feed comes through, and nothing if it does not. -/
def Replies (w : Outside) (s : Newsroom) (h : Handle) (sent : List (Handle × Event)) : Prop :=
  (∀ feed, ComesThrough w s h feed → ∃ items text c,
    feed.since (s.contact h).marker = .ok items ∧ Html.body items = .ok text ∧
      sent = [(h, .received (.html text) c)]) ∧
  ((¬ ∃ feed, ComesThrough w s h feed) → sent = [])

theorem exists_exec_refresh (hw : w.Quiet) (h : Handle) (s : Newsroom) :
    ∃ t, exec (refresh w h) s = (.ok (), t) ∧ Sparing [h] [(h, (s.contact h).address)] s t ∧
      ∃ sent, Replies w s h sent ∧ t.messages = s.messages ++ sent := by
  obtain ⟨notes, hrun⟩ := exists_refresh_eq w h s
  obtain ⟨hreceived, hnothing⟩ := mail_refresh hw h s
  refine ⟨(exec (refresh w h) s).2, ?_, sparing_refresh (List.mem_singleton_self h) w s, ?_⟩
  · rw [hrun]
  by_cases hc : ∃ feed, ComesThrough w s h feed
  · obtain ⟨feed, hthrough⟩ := hc
    obtain ⟨_, _, _, _, hsent, _⟩ := hreceived feed hthrough
    refine ⟨_, ⟨fun other hother => ?_, fun hnot => absurd ⟨feed, hthrough⟩ hnot⟩, hsent⟩
    obtain ⟨items, text, hitems, hbody, hsent', _⟩ := hreceived other hother
    exact ⟨items, text, _, hitems, hbody, List.append_cancel_left (hsent.symm.trans hsent')⟩
  · refine ⟨[], ⟨fun feed hthrough => absurd ⟨feed, hthrough⟩ hc, fun _ => rfl⟩, ?_⟩
    rw [List.append_nil]
    exact congrArg (·.1) (hnothing hc)

theorem Replies.congr {h : Handle} {sent : List (Handle × Event)} (hr : Replies w t h sent)
    (hsame : t.affairs h = s.affairs h) : Replies w s h sent := by
  have hcontact : t.contact h = s.contact h := congrArg Affairs.contact hsame
  have hthrough (feed : Feed) : ComesThrough w t h feed ↔ ComesThrough w s h feed :=
    comesThrough_congr hcontact (congrArg Affairs.filed hsame)
  unfold Replies at hr ⊢
  simp only [hthrough, hcontact] at hr
  exact hr

theorem exec_refreshAll (hw : w.Quiet) (hs : List Handle) (s : Newsroom) :
    ∃ t, exec (hs.forM (refresh w)) s = (.ok (), t) ∧
      Sparing hs (hs.map fun h => (h, (s.contact h).address)) s t ∧
      ((hs.map fun h => (s.contact h).address).Nodup → ∃ groups,
        List.Forall₂ (Replies w s) hs groups ∧ t.messages = s.messages ++ groups.flatten) := by
  induction hs generalizing s with
  | nil => exact ⟨s, rfl, .refl [] s, fun _ => ⟨[], .nil, (List.append_nil _).symm⟩⟩
  | cons first rest ih =>
    obtain ⟨u, hfirst, hspared, sent, hreplies, hsent⟩ := exists_exec_refresh hw first s
    obtain ⟨t, hrest, hspared', hmessages⟩ := ih u
    simp only [hspared.address] at hspared' hmessages
    refine ⟨t, ?_, hspared.cons hspared', fun hnodup => ?_⟩
    · rw [List.forM_eq_forM] at hrest ⊢
      rw [List.forM_cons, exec_bind, hfirst]
      exact hrest
    · obtain ⟨hnew, hnodup⟩ := List.nodup_cons.mp hnodup
      obtain ⟨groups, hgroups, htold⟩ := hmessages hnodup
      -- the first refresh was about another address than those that follow
      have hkept (h : Handle) (hh : h ∈ rest) : u.affairs h = s.affairs h := by
        have hother : ∀ i ∈ [first], (s.contact i).address ≠ (s.contact h).address :=
          List.forall_mem_singleton.mpr fun heq => hnew (List.mem_map.mpr ⟨h, hh, heq.symm⟩)
        exact hspared.affairs (fun hi => hother h hi rfl) hother
      refine ⟨sent :: groups, .cons hreplies ?_, ?_⟩
      · refine ((List.forall₂_and_left rest groups).mpr ⟨hkept, hgroups⟩).imp ?_
        exact fun h sent hboth => hboth.2.congr hboth.1
      · rw [htold, hsent, List.flatten_cons, List.append_assoc]

theorem Opened.round {now : Moment} (hs : Opened s table now) (hw : w.Quiet) :
    s.roster.Nodup ∧ ∃ t groups, exec (firstRound w) s = (.ok (), t) ∧
      t.fetches = s.roster.map (fun h => (h, (s.contact h).address)) ∧
      List.Forall₂ (Replies w s) s.roster groups ∧ t.messages = groups.flatten := by
  have hdistinct := Store.nodup_addresses_of_all hs.ready.unique hs.all
  rw [contacts, List.map_map] at hdistinct
  obtain ⟨past, hpast⟩ := hs.notes
  have hnone {β : Type} (pick : Entry → Option β) (hpick : ∀ note, pick (.noted note) = none) :
      s.trace.filterMap pick = [] := by
    rw [hpast, List.filterMap_map, List.filterMap_eq_nil_iff]
    exact fun note _ => hpick note
  -- who listens is no affair of a contact, so what is sent may be told before the console listens
  let listening := s.withAudience .messages ((s.audience .messages).add console)
  obtain ⟨t, hrun, hspared, hmessages⟩ := exec_refreshAll hw s.roster listening
  obtain ⟨groups, hgroups, htold⟩ := hmessages hdistinct
  have hunasked : listening.fetches = [] := hnone _ fun _ => rfl
  have hfetches : t.fetches = s.roster.map fun h => (h, (s.contact h).address) := by
    rw [hspared.fetches, hunasked, List.nil_append]
    rfl
  have hsilent : listening.messages = [] := hnone _ fun _ => rfl
  refine ⟨.of_map _ hdistinct, t, groups, hrun, hfetches, ?_, ?_⟩
  · exact hgroups.imp fun h sent hr => hr.congr rfl
  · rw [htold, hsilent, List.nil_append]

theorem quiet_outside (e : Surroundings) : (outside e).Quiet :=
  fun _ _ _ _ hm => nomatch hm

/-! ### The opening -/

/-- Opening the program over a table that can be read, with addresses that can be written, fails
nowhere. The list is then what is read of the table, in the order of the ids, and after it a new
contact for each address that was not there, in the order in which they are first named; and the
table holds the same contacts. In the first round each contact in the list is refreshed once, in
this order, at the request of the user. And whoever opens the program again over the table as it is
then, with the same addresses, adds nothing to it. -/
theorem opens_each_address_once {e : Surroundings} {addresses : List String}
    (haddresses : e.addresses = addresses.map some) (hready : e.store.connect.Ready)
    (hnow : e.now.Legible) (hlegible : ∀ address ∈ addresses, Text.loneHalves? address = none)
    (clockwork : Clockwork) :
    let w := outside e
    let opened := exec (setUp w e.addresses) (empty (some e.store.connect) clockwork)
    let s := opened.2
    let round := exec (firstRound w) s
    opened.1 = .ok () ∧
    ∃ stored held,
      ((e.store.rows.map Row.id).Pairwise (· < ·) ∧
        List.Forall₂ (fun row c => row.contact e.now = .ok c) e.store.rows stored ∧
        s.contacts = stored ++ newcomers e.store e.now addresses) ∧
      (s.store = some held ∧ e.store.rows <+: held.rows ∧ held.all e.now = .ok s.contacts) ∧
      (s.roster.Nodup ∧ round.1 = .ok () ∧
        round.2.fetches = s.roster.map (fun h => (h, (s.contact h).address)) ∧
        ∃ groups, List.Forall₂ (Replies w s) s.roster groups ∧
          round.2.messages = groups.flatten) ∧
      ∀ (later : Surroundings) (clockwork' : Clockwork), later.store = held.close →
        later.addresses = e.addresses →
        let again := exec (setUp (outside later) later.addresses)
          (empty (some later.store.connect) clockwork')
        again.1 = .ok () ∧ again.2.store = some held ∧
          held.all later.now = .ok again.2.contacts := by
  intro w opened s round
  obtain ⟨n, t, hload, ht⟩ := Opened.load hready w clockwork
  obtain ⟨u, held, hsubscribe, hu, hrows, hheld, hcontacts⟩ := ht.subscribeNew hnow hlegible
  have hopened : opened = (.ok (), u) := by
    show exec (setUp w e.addresses) _ = _
    unfold setUp
    rw [exec_bind, exec_discard, hload, haddresses]
    exact hsubscribe
  obtain rfl : s = u := congrArg Prod.snd hopened
  obtain ⟨hnodup, r, groups, hround, hfetches, hgroups, hmessages⟩ := hu.round (quiet_outside e)
  have hround' : round = (.ok (), r) := hround
  refine ⟨congrArg Prod.fst hopened, t.contacts, held, ⟨hready.ascending, ?_, hcontacts⟩,
    ⟨hu.store, hrows, hu.all⟩, ⟨hnodup, ?_, ?_, groups, hgroups, ?_⟩, ?_⟩
  · exact (Store.all_eq_ok_iff.mp ht.all).2
  · rw [hround']
  · rw [hround']
    exact hfetches
  · rw [hround']
    exact hmessages
  · -- loading has brought all rows into the list, and each address has one by now
    intro later clockwork' hstore hnamed again
    have hreopened : later.store.connect = held := by
      rw [hstore, Store.close, Store.connect]
      have hopen := hu.ready.isOpen
      rw [← hopen]
    obtain ⟨m, v, hload', hv⟩ := Opened.load hu.ready (outside later) clockwork'
    have hlisted : ∀ address ∈ later.addresses, v.lists address = true := by
      rw [hnamed, haddresses]
      refine List.forall_mem_map.mpr fun address hm => ?_
      rw [hv.lists_eq]
      exact hheld address hm
    have hagain : again = (.ok (), v) := by
      show exec (setUp (outside later) later.addresses) _ = _
      unfold setUp
      rw [exec_bind, exec_discard, hreopened, hload']
      exact subscribeNew_of_lists hlisted
    rw [hagain]
    exact ⟨rfl, hv.store, hv.all⟩

def offline (store : Store) (addresses : List String) : Surroundings :=
  { surroundings addresses [] with store := store }

theorem legible_epoch : epoch.Legible :=
  fun _ ho => nomatch ho

/-- Two addresses, one of them known and the other named twice, over a table with one row. -/
def repeated : Surroundings :=
  offline ⟨[earlier], 1, false⟩ ["b", "a", "b"]

theorem newcomers_repeated :
    newcomers repeated.store epoch ["b", "a", "b"] = [.newcomer epoch "b" 2] := by
  have hunknown : repeated.store.unknown ["b", "a", "b"] = ["b"] := by decide
  rw [newcomers, hunknown]
  rfl

/-- An address that is known and one that is new, which is named twice: there are two contacts then,
and two feeds are asked for. -/
theorem opens_with_repeated_address :
    ∃ s t, exec (setUp (outside repeated) repeated.addresses)
        (empty (some repeated.store.connect) bare.clockwork) = (.ok (), s) ∧
      exec (firstRound (outside repeated)) s = (.ok (), t) ∧
      s.contacts.map (fun c => (c.id, c.name)) = [(some 1, .text "News"), (some 2, .text "b")] ∧
      t.fetches.map Prod.snd = [some "a", some "b"] := by
  have hlegible : ∀ address ∈ ["b", "a", "b"], Text.loneHalves? address = none := by decide
  have hmain := opens_each_address_once (e := repeated) rfl ready_earlier legible_epoch hlegible
    bare.clockwork
  rcases hopened : exec (setUp (outside repeated) repeated.addresses)
    (empty (some repeated.store.connect) bare.clockwork) with ⟨r, s⟩
  dsimp only at hmain
  rw [hopened] at hmain
  obtain ⟨hok, stored, _, ⟨_, hstored, hcontacts⟩, _, ⟨_, hround, hfetches, _⟩, _⟩ := hmain
  have hread : List.Forall₂ (fun row c => row.contact epoch = .ok c) [earlier] stored := hstored
  cases hread with
  | cons hc hrest =>
    cases hrest
    cases (Store.contact_rowOf ..).symm.trans hc
    have hnew : newcomers repeated.store repeated.now ["b", "a", "b"] = _ := newcomers_repeated
    rw [hnew] at hcontacts
    refine ⟨s, _, Prod.ext hok rfl, Prod.ext hround rfl, ?_, ?_⟩
    · rw [hcontacts]
      rfl
    · have haddresses : s.roster.map (fun h => (s.contact h).address)
          = s.contacts.map Contact.address := List.map_map.symm
      rw [hfetches, List.map_map]
      refine haddresses.trans ?_
      rw [hcontacts]
      rfl

/-- It is not so that opening never fails: an address that cannot be written in bytes is refused by
the table, and the program ends. -/
theorem unwritable_address_ends_opening :
    let e := offline .empty [half]
    e.store.connect.Ready ∧ ∃ why,
      (exec (setUp (outside e) e.addresses) (empty (some e.store.connect) bare.clockwork)).1
        = .error (.unwritable why) := by
  refine ⟨?_, _, rfl⟩
  exact {
    unique := .nil
    readable := fun _ hrow => nomatch hrow
    isOpen := rfl
    ascending := .nil
    bounded := fun _ hrow => nomatch hrow }

end Startup

end Newswire

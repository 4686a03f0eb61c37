import Newswire.Newsroom.Restart
import Newswire.Proofs.Succession
import Newswire.Proofs.Sweeping

/-!
All that can be done with a newsroom, and what holds of each that comes about. Every contact in the
list has a handle that was given out, and no address is in the list or in the table twice; whatever
is done, it stays so, because what does not put contacts into the list spares it, and what does
leaves out the addresses that are there.
-/

namespace Newswire

open Newsroom

/-- Something that is done with a newsroom. The last two begin a new list over the same store, which
they close and open before or leave as it is, and load it. -/
inductive Act where
  | load
  | subscribe (address : Option String) (name : Value)
  | unsubscribe (h : Handle)
  | setPresence (h : Handle) (presence : Presence)
  | goOffline (h : Handle)
  | propertyChanged (h : Handle) (property : String) (old new : Value)
  | check (h : Handle) (onRequest : Bool)
  | sweep
  | refresh (h : Handle)
  | send (h : Handle) (message : Message)
  | reportGone (h : Handle)
  | addListener (topic : Topic) (listener : Listener)
  | removeListener (topic : Topic) (listener : Listener)
  | register (c : Contact)
  | connect
  | close
  | anew (clockwork : Clockwork)
  | restart (clockwork : Clockwork)

namespace Act

def run (w : Outside) : Act → Engine Unit
  | load => discard (Newsroom.load w)
  | subscribe address name => discard (Newsroom.subscribe w address name)
  | unsubscribe h => Newsroom.unsubscribe h
  | setPresence h presence => Newsroom.setPresence h presence
  | goOffline h => discard (Newsroom.goOffline h)
  | propertyChanged h property old new => Newsroom.propertyChanged w h property old new
  | check h onRequest => discard (Newsroom.check w h onRequest)
  | sweep => Newsroom.sweep w
  | refresh h => Newsroom.refresh w h
  | send h message => Newsroom.send w h message
  | reportGone h => Newsroom.reportGone w h
  | addListener topic listener => Newsroom.addListener topic listener
  | removeListener topic listener => Newsroom.removeListener topic listener
  | register c => discard (Newsroom.register c)
  | connect => modify fun s => { s with store := s.store.map Store.connect }
  | close => modify fun s => { s with store := s.store.map Store.close }
  | anew clockwork => do beginAnew clockwork; discard (Newsroom.load w)
  | restart clockwork => do Newsroom.restart clockwork; discard (Newsroom.load w)

def about (s : Newsroom) : Act → List Handle
  | unsubscribe h | setPresence h _ | goOffline h | propertyChanged h _ _ _ | check h _ | refresh h
  | send h _ | reportGone h => [h]
  | sweep => s.roster
  | _ => []

/-- It makes no contacts, and it neither opens nor closes the store. -/
def Plain : Act → Prop
  | load | subscribe _ _ | register _ | connect | close | anew _ | restart _ => False
  | _ => True

/-- It seeks news: a feed is looked at, or was found gone. -/
def Seeks : Act → Prop
  | check _ _ | sweep | refresh _ | send _ _ | reportGone _ => True
  | _ => False

def Renews : Act → Prop
  | anew _ | restart _ => True
  | _ => False

theorem Seeks.plain {act : Act} (h : act.Seeks) : act.Plain := by
  cases act with
  | check | sweep | refresh | send | reportGone => trivial
  | _ => exact h.elim

end Act

namespace Newsroom

/-- A message to the contact gets through, and nobody fails who hears that it did. -/
def greets (w : Outside) (s : Newsroom) (h : Handle) : Bool :=
  !((s.contact h).persistent && (s.contact h).presence = .offline) &&
    ((s.audience .messages).tell (w.react .messages)
      (.delivered acknowledgement (s.contact h))).fault.isNone

end Newsroom

/-- What is found of the feed of a contact, if it is sought. -/
def Act.finds (w : Outside) (s : Newsroom) (h : Handle) : Act → Option (Except Fault Feed)
  | check i _ | refresh i => if i = h then some (w.fetch (s.contact h).address) else none
  | sweep => if h ∈ s.roster then some (w.fetch (s.contact h).address) else none
  | send i _ => if i = h ∧ s.greets w h then some (w.fetch (s.contact h).address) else none
  | reportGone i => if i = h then some (.error (.gone "")) else none
  | _ => none

/-- What becomes of the affairs of a contact when its feed was sought or not. -/
def Affairs.after (a : Affairs) (found : Option (Except Fault Feed))
    (answer : Option (Except Fault Bool)) : Affairs :=
  match found with
  | none => a
  | some found => a.look found answer

namespace Newsroom

variable {s t : Newsroom}

structure Turn where
  world : Outside
  act : Act

def pass (s : Newsroom) (turn : Turn) : Newsroom :=
  (exec (turn.act.run turn.world) s).2

def course (s : Newsroom) (turns : List Turn) : Newsroom :=
  turns.foldl pass s

theorem course_append (s : Newsroom) (past rest : List Turn) :
    s.course (past ++ rest) = (s.course past).course rest :=
  List.foldl_append

/-- Each of some turns is such when its time has come. -/
def Throughout (P : Newsroom → Turn → Prop) : Newsroom → List Turn → Prop
  | _, [] => True
  | s, turn :: rest => P s turn ∧ Throughout P (s.pass turn) rest

theorem throughout_append {P : Newsroom → Turn → Prop} {past rest : List Turn} :
    s.Throughout P (past ++ rest) ↔ s.Throughout P past ∧ (s.course past).Throughout P rest := by
  induction past generalizing s with
  | nil => exact ⟨fun h => ⟨trivial, h⟩, And.right⟩
  | cons turn past ih => exact (and_congr_right fun _ => ih).trans and_assoc.symm

theorem throughout_iff {P : Newsroom → Turn → Prop} {turns : List Turn} :
    s.Throughout P turns ↔
      ∀ past turn rest, turns = past ++ turn :: rest → P (s.course past) turn := by
  constructor
  · rintro h past turn rest rfl
    exact (throughout_append.mp h).2.1
  · intro h
    induction turns generalizing s with
    | nil => trivial
    | cons turn rest ih =>
      refine ⟨h [] turn rest rfl, ih fun past own others hsplit => ?_⟩
      exact h (turn :: past) own others (by rw [hsplit, List.cons_append])

/-! ### What is done to contacts -/

theorem sparing_act (w : Outside) {act : Act} (hact : act.Plain) (s : Newsroom) :
    ∃ feeds, Sparing (act.about s) feeds s (exec (act.run w) s).2 := by
  have hself (h : Handle) : h ∈ [h] := List.mem_singleton_self h
  have hbound (h : Handle) : LookBound h (Sparing [h] []) := lookBound_sparing (hself h)
  cases act with
  | load | subscribe | register | connect | close | anew | restart => exact hact.elim
  | unsubscribe h => exact ⟨_, (hbound h).unsubscribed s⟩
  | setPresence h p => exact ⟨_, (hbound h).setPresence p s⟩
  | goOffline h =>
    simp only [Act.run, exec_discard]
    exact ⟨_, (hbound h).goOffline s⟩
  | propertyChanged h property old new =>
    exact ⟨_, (hbound h).propertyChanged w property old new s⟩
  | check h onRequest =>
    simp only [Act.run, exec_discard]
    exact ⟨_, sparing_check (hself h) w onRequest s⟩
  | sweep =>
    obtain ⟨t, hsweep, hspared, _⟩ := exec_checkAll w s.roster s
    simp only [Act.run, exec_sweep, hsweep]
    exact ⟨_, hspared⟩
  | refresh h => exact ⟨_, sparing_refresh (hself h) w s⟩
  | send h message =>
    simp only [Act.run, send, exec_bind, exec_contactOf]
    split
    · exact ⟨_, Spares.tell w _ h _ s⟩
    · have htell : Spares [h] _ :=
        Spares.tell w .messages h (.delivered acknowledgement (s.contact h))
      have htold := htell s
      rw [exec_bind]
      rcases he : exec (tell w .messages h (.delivered acknowledgement (s.contact h))) s
        with ⟨fault | _, t⟩
      all_goals rw [he] at htold
      · exact ⟨_, htold⟩
      · exact ⟨_, htold.trans (sparing_refresh (hself h) w t)⟩
  | reportGone h => exact ⟨_, (hbound h).reportGone w s⟩
  | addListener topic listener =>
    refine ⟨[], ?_⟩
    cases topic with
    | messages => exact { Sparing.refl [] s with }
    | properties => exact { Sparing.refl [] s with }
  | removeListener topic listener =>
    refine ⟨[], ?_⟩
    cases topic with
    | messages => exact { Sparing.refl [] s with }
    | properties => exact { Sparing.refl [] s with }

/-! ### What is found of feeds -/

theorem eq_of_address (hs : (s.contacts.map Contact.address).Nodup) {h i : Handle}
    (hh : h ∈ s.roster) (hi : i ∈ s.roster)
    (ha : (s.contact h).address = (s.contact i).address) : h = i := by
  rw [contacts, List.map_map] at hs
  exact List.inj_on_of_nodup_map hs hh hi ha

theorem affairs_send (w : Outside) (h : Handle) (message : Message) (s : Newsroom) :
    (exec (send w h message) s).2.affairs h = (s.affairs h).after ((Act.send h message).finds w s h)
      (w.answer s.questions (s.contact h).address) := by
  have hkept := keeps_affairs_tell (h := h) w .messages h
    (.delivered acknowledgement (s.contact h)) s
  have htold := exec_tell w .messages h (.delivered acknowledgement (s.contact h)) s
  unfold send Act.finds greets
  rw [exec_bind, exec_contactOf]
  dsimp only
  by_cases hoff : ((s.contact h).persistent && (s.contact h).presence = .offline) = true
  · simp only [hoff, Bool.not_true, Bool.false_and, Bool.false_eq_true, and_false, if_false]
    exact keeps_affairs_tell w .messages h _ s
  · simp only [Bool.eq_false_iff.mpr hoff, Bool.not_false, Bool.true_and, true_and,
      Bool.false_eq_true, if_false]
    rw [exec_bind]
    rw [htold] at hkept ⊢
    dsimp only at hkept ⊢
    cases ((s.audience .messages).tell (w.react .messages)
        (.delivered acknowledgement (s.contact h))).fault with
    | some fault => exact hkept
    | none =>
      rw [Option.isNone_none, if_pos rfl, ← hkept]
      exact affairs_refresh w h _

/-- Acts that seek news do to the affairs of a listed contact what is done by one look at what was
found of its feed, and nothing if it was not sought. -/
theorem affairs_act (hs : (s.contacts.map Contact.address).Nodup) (w : Outside) {act : Act}
    (hact : act.Seeks) (hknown : ∀ i ∈ act.about s, i ∈ s.roster) {h : Handle} (hh : h ∈ s.roster) :
    ∃ n, (exec (act.run w) s).2.affairs h
      = (s.affairs h).after (act.finds w s h) (w.answer n (s.contact h).address) := by
  have hother (i : Handle) (hi : act.about s = [i]) (hne : i ≠ h) :
      (exec (act.run w) s).2.affairs h = s.affairs h := by
    obtain ⟨feeds, hspared⟩ := sparing_act w hact.plain s
    rw [hi] at hspared
    have hlisted : i ∈ s.roster := hknown i (hi ▸ List.mem_singleton_self i)
    refine hspared.affairs (fun hm => hne (List.mem_singleton.mp hm).symm) fun j hj heq => hne ?_
    rw [List.mem_singleton.mp hj] at heq
    exact eq_of_address hs hlisted hh heq
  cases act with
  | check i onRequest =>
    by_cases hi : i = h
    · subst hi
      refine ⟨s.questions, ?_⟩
      simp only [Act.run, exec_discard, Act.finds, if_true]
      exact affairs_check w i onRequest s
    · refine ⟨0, ?_⟩
      simp only [Act.finds, if_neg hi]
      exact hother i rfl hi
  | refresh i =>
    by_cases hi : i = h
    · subst hi
      refine ⟨s.questions, ?_⟩
      simp only [Act.run, Act.finds, if_true]
      exact affairs_refresh w i s
    · refine ⟨0, ?_⟩
      simp only [Act.finds, if_neg hi]
      exact hother i rfl hi
  | send i message =>
    by_cases hi : i = h
    · subst hi
      exact ⟨s.questions, affairs_send w i message s⟩
    · refine ⟨0, ?_⟩
      simp only [Act.finds, hi, false_and, if_false]
      exact hother i rfl hi
  | reportGone i =>
    by_cases hi : i = h
    · subst hi
      refine ⟨s.questions, ?_⟩
      simp only [Act.run, Act.finds, if_true]
      exact affairs_reportGone w i s
    · refine ⟨0, ?_⟩
      simp only [Act.finds, if_neg hi]
      exact hother i rfl hi
  | sweep =>
    obtain ⟨t, hsweep, _, haffairs⟩ := exec_checkAll w s.roster s
    rw [contacts, List.map_map] at hs
    obtain ⟨n, hn⟩ := haffairs hs h hh
    refine ⟨n, ?_⟩
    simp only [Act.run, exec_sweep, hsweep, Act.finds, if_pos hh]
    exact hn
  | _ => exact hact.elim

/-! ### Beginning anew -/

theorem exec_beginAnew (clockwork : Clockwork) (s : Newsroom) :
    ∃ notes : List Journal.Note,
      exec (beginAnew clockwork) s = (.ok (), (s.emptied s.store clockwork).noting notes) := by
  obtain ⟨notes, hstop⟩ := exec_stop s
  refine ⟨notes, ?_⟩
  simp only [beginAnew, exec_bind, hstop, exec_modify]
  rfl

theorem exec_restart (clockwork : Clockwork) (s : Newsroom) :
    ∃ notes : List Journal.Note, exec (restart clockwork) s
      = (.ok (),
        (s.emptied (s.store.map fun store => store.close.connect) clockwork).noting notes) := by
  obtain ⟨notes, hstop⟩ := exec_stop s
  refine ⟨notes, ?_⟩
  simp only [restart, exec_bind, hstop, exec_modify]
  rfl

/-! ### Orderly newsrooms -/

/-- The contacts in the list have handles that were given out, and so have those about whom the user
was asked; no address is in the list twice, nor in the table. -/
structure Orderly (s : Newsroom) : Prop where
  known : ∀ h ∈ s.roster, h < s.size
  distinct : (s.contacts.map Contact.address).Nodup
  unique : ∀ store, s.store = some store → (store.rows.map Row.address).Nodup
  asked : ∀ entry ∈ s.trace, entry.AsksOf (List.range s.size)

namespace Orderly

theorem addresses (hs : s.Orderly) : (s.roster.map fun h => (s.contact h).address).Nodup := by
  have h := hs.distinct
  rwa [contacts, List.map_map] at h

theorem noting (hs : s.Orderly) (notes : List Journal.Note) : (s.noting notes).Orderly :=
  { hs with
    asked := fun entry he => by
      rcases List.mem_append.mp he with he | he
      · exact hs.asked entry he
      · obtain ⟨_, _, rfl⟩ := List.mem_map.mp he
        trivial }

theorem sparing {hs : List Handle} {feeds : List (Handle × Option String)} (ho : s.Orderly)
    (h : Sparing hs feeds s t) (hlt : ∀ i ∈ hs, i < s.size) : t.Orderly where
  known i hi := by
    rw [h.size]
    exact ho.known i (h.roster.subset hi)
  distinct := by
    rw [contacts, List.map_map]
    have hsame : Contact.address ∘ t.contact = fun i => (s.contact i).address :=
      funext fun i => h.address i
    rw [hsame]
    exact ho.addresses.sublist (h.roster.map _)
  unique store hstore := by
    have hst := h.store
    rw [hstore] at hst
    generalize hold : s.store = old at hst
    cases hst with
    | some hst => exact (ho.unique _ hold).sublist hst.addresses
  asked entry he := by
    obtain ⟨more, ht, _, hasks⟩ := h.trace
    rw [h.size]
    rw [ht] at he
    rcases List.mem_append.mp he with he | he
    · exact ho.asked entry he
    · exact (hasks entry he).mono fun i hi => List.mem_range.mpr (hlt i hi)

theorem grown {cs : List Contact} (ho : s.Orderly) (h : Grown cs s t)
    (hnew : ((s.contacts ++ cs).map Contact.address).Nodup) : t.Orderly where
  known := h.known
  distinct := by
    rw [h.contacts]
    exact hnew
  unique := by
    rw [h.store]
    exact ho.unique
  asked entry he := by
    rw [h.trace] at he
    exact (ho.asked entry he).mono (List.range_subset.mpr h.size)

theorem withStore (ho : s.Orderly) (change : Store → Store)
    (hrows : ∀ store, (change store).rows = store.rows) :
    { s with store := s.store.map change }.Orderly :=
  { ho with
    unique := fun st hst => by
      obtain ⟨old, hold, rfl⟩ := Option.map_eq_some_iff.mp hst
      rw [hrows]
      exact ho.unique old hold }

theorem emptied (ho : s.Orderly) (clockwork : Clockwork) :
    (s.emptied s.store clockwork).Orderly where
  known _ hi := nomatch hi
  distinct := .nil
  unique := ho.unique
  asked := ho.asked

theorem load (ho : s.Orderly) (w : Outside) : (exec (load w) s).2.Orderly := by
  rw [exec_load]
  split
  · exact ho
  · next store hstore =>
    split
    · exact ho
    · next stored hall =>
      have hstored := Store.nodup_addresses_of_all (ho.unique store hstore) hall
      exact (ho.grown (grown_enlistingAll _ ho.known)
        (nodup_addresses_append ho.distinct hstored)).noting _

theorem subscribe (ho : s.Orderly) (w : Outside) (address : Option String) (name : Value) :
    (exec (subscribe w address name) s).2.Orderly := by
  rw [exec_subscribe]
  split
  · exact ho
  · next hlists =>
    have hnew (u : Newsroom) (hu : u.Orderly) (hsame : u.contacts = s.contacts) (c : Contact)
        (hc : c.address = address) : (u.enlisting c).Orderly := by
      have hgrown : Grown [c] u (u.enlisting c) := grown_enlistingAll [c] hu.known
      refine hu.grown hgrown ?_
      rw [hsame, List.map_append, List.map_singleton, hc, ← List.concat_eq_append]
      exact ho.distinct.concat fun hm => hlists (mem_addresses_iff.mp hm)
    dsimp only
    split
    · exact (hnew s ho rfl _ rfl).noting _
    · next store hstore =>
      split
      · exact ho
      · next c added hadd =>
        obtain ⟨own, _, _, haddress, _, _, _, _, hheld, rfl, hadded⟩ := Store.add_eq_ok hadd
        have hunique : (added.rows.map Row.address).Nodup := by
          rw [hadded, List.map_append, List.map_singleton, ← List.concat_eq_append]
          refine (ho.unique store hstore).concat fun hm => ?_
          obtain ⟨row, hrow, hown⟩ := List.mem_map.mp hm
          rw [haddress, Bool.eq_false_iff, ne_eq, Store.holds_iff] at hheld
          exact hheld ⟨row, hrow, congrArg some hown⟩
        have hstored : { s with store := some added }.Orderly :=
          { ho with unique := fun st hst => Option.some.inj hst ▸ hunique }
        exact (hnew _ hstored rfl _ rfl).noting _

/-- Whatever is done with contacts that were given out, the newsroom stays in order. -/
theorem act (ho : s.Orderly) (w : Outside) {act : Act} (hact : ∀ h ∈ act.about s, h < s.size) :
    (exec (act.run w) s).2.Orderly := by
  by_cases hplain : act.Plain
  · obtain ⟨feeds, hspared⟩ := sparing_act w hplain s
    exact ho.sparing hspared hact
  · cases act with
    | load =>
      simp only [Act.run, exec_discard]
      exact ho.load w
    | subscribe address name =>
      simp only [Act.run, exec_discard]
      exact ho.subscribe w address name
    | register c =>
      simp only [Act.run, exec_discard, exec_register]
      exact {
        known := fun h hm => Nat.lt_succ_of_lt (ho.known h hm)
        distinct := by
          have hsame : (s.registering c).contacts = s.contacts := List.map_congr_left fun i hi =>
            contact_withContact_of_ne s c (Nat.ne_of_lt (ho.known i hi))
          rw [hsame]
          exact ho.distinct
        unique := ho.unique
        asked := fun entry he =>
          (ho.asked entry he).mono (List.range_subset.mpr (Nat.le_succ _)) }
    | connect => exact ho.withStore (fun store => store.connect) fun _ => rfl
    | close => exact ho.withStore (fun store => store.close) fun _ => rfl
    | anew clockwork =>
      obtain ⟨notes, hbegin⟩ := exec_beginAnew clockwork s
      simp only [Act.run, exec_bind, hbegin, exec_discard]
      exact ((ho.emptied clockwork).noting notes).load w
    | restart clockwork =>
      obtain ⟨notes, hbegin⟩ := exec_restart clockwork s
      simp only [Act.run, exec_bind, hbegin, exec_discard]
      have hreopened := ho.withStore (fun store => store.close.connect) fun _ => rfl
      exact ((hreopened.emptied clockwork).noting notes).load w
    | _ => exact absurd trivial hplain

end Orderly

/-- The newsrooms that come about: one begins with nothing in it, over a table in which no address
is twice, and then things are done with it and with contacts that were given out. -/
inductive Reachable : Newsroom → Prop where
  | start {store : Option Store} {clockwork : Clockwork}
      (unique : ∀ st, store = some st → (st.rows.map Row.address).Nodup) :
      Reachable (empty store clockwork)
  | act {s : Newsroom} (before : Reachable s) (w : Outside) (act : Act)
      (known : ∀ h ∈ act.about s, h < s.size) : Reachable (exec (act.run w) s).2

theorem Reachable.orderly (hs : s.Reachable) : s.Orderly := by
  induction hs with
  | start unique =>
    exact {
      known := fun _ hm => nomatch hm
      distinct := .nil
      unique := unique
      asked := fun _ hm => nomatch hm }
  | act before w act known ih => exact ih.act w known

end Newsroom

end Newswire

import Newswire.Proofs.Restart.InStep

/-!
Restart equivalence. A list that was loaded from a table is in step with it, and stays so whatever
is done with contacts that are in it, however that ends. So at any time a new list over the same
store holds the same contacts in the same order, each equal to the one that it stands for, unless
the name or the marker of that one cannot be written in bytes. Then its row says what it was before.
-/

namespace Newswire

/-- Contacts come into the list from the store, or by a subscription to the text of an address, under
a text or no name at all, at a time that is read back as it is. -/
def Act.Usual (now : Moment) : Act → Prop
  | load => True
  | subscribe address name =>
    (∃ text, address = some text) ∧ (name = .null ∨ ∃ text, name = .text text) ∧ now.Legible
  | act => act.Plain

namespace Newsroom

variable {s : Newsroom} {store : Store}

/-- The turn is about contacts that are in the list, and the feeds that are found of them are fit to
be taken in. -/
structure Ordinary (s : Newsroom) (turn : Turn) : Prop where
  usual : turn.act.Usual turn.world.now
  listed : ∀ h ∈ turn.act.about s, h ∈ s.roster
  fit : ∀ h ∈ turn.act.about s, ∀ feed, turn.act.finds turn.world s h = some (.ok feed) →
    feed.Fit (s.contact h)

/-- An ordinary turn leaves list and table in step. -/
theorem InStep.pass (hs : s.InStep store) {turn : Turn} (hturn : s.Ordinary turn) :
    ∃ store', (s.pass turn).InStep store' := by
  obtain ⟨w, act⟩ := turn
  obtain ⟨husual, hlisted, hfit⟩ := hturn
  by_cases hplain : act.Plain
  · obtain ⟨feeds, hspared⟩ := sparing_act w hplain s
    exact hs.sparing hspared hlisted fun h hh => hs.settled w hplain hlisted hfit hh
  · unfold Newsroom.pass
    cases act with
    | load =>
      dsimp only [Act.run]
      rw [exec_discard]
      exact ⟨store, hs.load w⟩
    | subscribe address name =>
      obtain ⟨⟨text, rfl⟩, hname, hnow⟩ := husual
      dsimp only [Act.run]
      rw [exec_discard]
      exact hs.subscribe w text hname hnow
    | _ => exact absurd husual hplain

theorem InStep.course {turns : List Turn} (hs : s.InStep store)
    (hturns : s.Throughout Ordinary turns) : ∃ store', (s.course turns).InStep store' := by
  induction turns generalizing s store with
  | nil => exact ⟨store, hs⟩
  | cons turn rest ih =>
    obtain ⟨_, hpassed⟩ := hs.pass hturns.1
    exact ih hpassed hturns.2

/-- After each turn of an ordinary course of a list that was loaded from a table, a new list can be
loaded, and it restores each contact in its place, whether or not the store was closed and opened
in between. -/
theorem restored_after_each_turn (hempty : s.roster = []) (hstore : s.store = some store)
    (hstocked : store.Stocked) (first : Outside) {turns : List Turn}
    (hturns : (s.pass ⟨first, .load⟩).Throughout Ordinary turns) {past rest : List Turn}
    (hpast : turns = past ++ rest) {clockwork : Clockwork} {begin : Engine Unit}
    (hbegin : Begins clockwork begin) (later : Outside) :
    let t := (s.pass ⟨first, .load⟩).course past
    ∃ n u, exec (do begin; load later) t = (.ok n, u) ∧
      List.Forall₂ Contact.Restores u.contacts t.contacts := by
  intro t
  have hloaded : (s.pass ⟨first, .load⟩).InStep store := by
    rw [Newsroom.pass, Act.run, exec_discard]
    exact .of_load hempty hstore hstocked first
  rw [hpast, throughout_append] at hturns
  obtain ⟨_, ht⟩ := hloaded.course hturns.1
  obtain ⟨cs, u, hall, hload, hafresh⟩ := exec_afresh ht.backed ht.isOpen ht.sound hbegin later
  refine ⟨cs.length, u, hload, ?_⟩
  rw [hafresh.contacts]
  exact ht.restores hall

def titled (title : String) : Outside :=
  .showing { Feed.bare [] with title := .text title }

/-- A subscription, and then a look at a feed of this title. -/
def newcomer (title : String) : List Turn :=
  [⟨titled title, .subscribe (some "a") (.text "News")⟩, ⟨titled title, .check 0 false⟩]

theorem ordinary_newcomer (title : String) :
    (blank.pass ⟨titled title, .load⟩).Throughout Ordinary (newcomer title) := by
  have hnow : (titled title).now.Legible := fun o ho => by
    cases ho
    exact .inl rfl
  have hsound : (Feed.bare []).Sound none := Feed.sound_bare _ fun _ htoken => nomatch htoken
  refine ⟨?_, ?_, trivial⟩
  · exact ⟨⟨⟨_, rfl⟩, .inr ⟨_, rfl⟩, hnow⟩, fun _ hh => (nomatch hh), fun _ hh => (nomatch hh)⟩
  · refine ⟨trivial, fun h hh => ?_, fun h hh feed hfeed => ?_⟩
    · rw [List.mem_singleton.mp hh]
      exact List.mem_singleton_self 0
    · rw [List.mem_singleton.mp hh] at hfeed ⊢
      cases hfeed
      exact ⟨⟨title, rfl⟩, { hsound with }, fun _ hd => nomatch hd⟩

theorem stocked_blank : (⟨[], 0, true⟩ : Store).Stocked where
  isOpen := rfl
  sound := ⟨.nil, fun _ hrow => nomatch hrow⟩
  kept _ hrow := nomatch hrow

/-- Someone subscribes to a feed, which is given a new title; the list that is loaded then is the
same. -/
theorem restored_under_new_title :
    let t := (blank.pass ⟨titled "New", .load⟩).course (newcomer "New")
    ∃ n u, exec (do restart bare.clockwork; load (titled "New")) t = (.ok n, u) ∧
      u.contacts = t.contacts ∧ t.contacts.map Contact.name = [.text "New"] := by
  intro t
  obtain ⟨n, u, hload, hrestores⟩ := restored_after_each_turn rfl rfl stocked_blank (titled "New")
    (ordinary_newcomer "New") (List.append_nil _).symm (.inr rfl) (titled "New")
  refine ⟨n, u, hload, Contact.eq_of_restores hrestores fun c hc => ?_, rfl⟩
  obtain rfl := List.mem_singleton.mp hc
  exact ⟨⟨"New", rfl⟩, fun _ hm => nomatch hm⟩

def half : String :=
  Text.ofCodes [0xD800]

theorem store_newcomer_half :
    ((blank.pass ⟨titled half, .load⟩).course (newcomer half)).store
      = some ⟨[Store.rowOf 1 "a" "News" (titled half).now
        (.fresh (some "a") (.text "News") (titled half).now)], 1, true⟩ := rfl

theorem names_newcomer_half :
    ((blank.pass ⟨titled half, .load⟩).course (newcomer half)).contacts.map Contact.name
      = [.text half] := rfl

/-- It is not so that every contact is restored as it is: when a feed is given a title that cannot be
written in bytes, the contact bears it, but its row keeps the name that it had. -/
theorem unwritable_title_not_restored :
    ¬ ∀ (s : Newsroom) (store : Store) (first later : Outside) (turns past rest : List Turn)
        (clockwork : Clockwork) (begin : Engine Unit), s.roster = [] → s.store = some store →
        store.Stocked → (s.pass ⟨first, .load⟩).Throughout Ordinary turns → turns = past ++ rest →
        Begins clockwork begin →
        let t := (s.pass ⟨first, .load⟩).course past
        ∃ n u, exec (do begin; load later) t = (.ok n, u) ∧ u.contacts = t.contacts := by
  intro hall
  let w := titled half
  let row := Store.rowOf 1 "a" "News" w.now (.fresh (some "a") (.text "News") w.now)
  obtain ⟨n, u, hload, hsame⟩ := hall blank _ w w (newcomer half) (newcomer half) []
    bare.clockwork _ rfl rfl stocked_blank (ordinary_newcomer half) (List.append_nil _).symm (.inr rfl)
  have hreadable : row.Readable := Store.readable_rowOf ..
  have hsound : (⟨[row], 1, true⟩ : Store).Sound :=
    ⟨List.nodup_singleton _, fun r hr => List.mem_singleton.mp hr ▸ hreadable⟩
  obtain ⟨cs, v, hall, hload', hafresh⟩ := exec_afresh store_newcomer_half rfl hsound (.inr rfl) w
  obtain rfl : u = v := congrArg Prod.snd (hload.symm.trans hload')
  obtain ⟨c, hc, hreads⟩ := Store.exists_mem_of_all hall (List.mem_singleton_self row)
  rw [Store.contact_rowOf] at hreads
  have hname : c.name = .text "News" := Except.ok.inj hreads ▸ rfl
  have hm : c.name ∈ u.contacts.map Contact.name := List.mem_map_of_mem (hafresh.contacts ▸ hc)
  rw [hsame, names_newcomer_half] at hm
  have hhalf := List.mem_singleton.mp hm
  have hne : "News" ≠ half := by decide
  exact hne (Value.text.inj (hname.symm.trans hhalf))

end Newsroom

end Newswire

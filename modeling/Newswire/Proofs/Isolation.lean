import Newswire.Proofs.Acts
import Newswire.Proofs.Delivery.Runs

/-!
Sweeps keep contacts apart. What a sweep makes of a contact, of its place in the list and of its row
is what a look at its feed alone makes of them when nobody listens. So neither the order of the list
nor the feeds of the others has a part in it, nor does any listener.
-/

namespace Newswire

/-- What the user answers does not depend on how much he was asked before. -/
def Outside.Steady (w : Outside) : Prop :=
  ∀ ask, w.ask = some ask → ∀ m n question, ask m question = ask n question

theorem Outside.Steady.answer_eq {w : Outside} (hw : w.Steady) (m n : Nat)
    (address : Option String) : w.answer m address = w.answer n address := by
  unfold answer
  cases hask : w.ask with
  | none => rfl
  | some ask => exact congrArg some (hw ask hask m n _)

namespace Newsroom

/-- The newsroom, with nobody who listens. -/
def unheard (s : Newsroom) : Newsroom :=
  { s with readers := .empty .messages, watchers := .empty .properties }

variable {s : Newsroom} {w : Outside}

/-- What a sweep makes of the affairs of a contact is a matter of these affairs, of its feed and of
the user. -/
theorem affairs_sweep (hs : (s.contacts.map Contact.address).Nodup) (hw : w.Steady) {h : Handle}
    (hh : h ∈ s.roster) (n : Nat) :
    (exec (sweep w) s).2.affairs h = (s.affairs h).look (w.fetch (s.contact h).address)
      (w.answer n (s.contact h).address) := by
  obtain ⟨t, hsweep, _, haffairs⟩ := exec_checkAll w s.roster s
  rw [contacts, List.map_map] at hs
  obtain ⟨m, hm⟩ := haffairs hs h hh
  rw [exec_sweep, hsweep, hm, hw.answer_eq m n]

/-- A sweep does not fail and asks for each feed once, in the order of the list. Afterwards the
affairs of each contact are as if its feed alone had been looked at and nobody had listened; and so
they are in any newsroom in which the contact stands as it does here, whatever else is listed there,
in whatever order, and whoever listens. -/
theorem sweep_isolated (hs : s.Reachable) (hw : w.Steady) :
    (exec (sweep w) s).1 = .ok () ∧
      (exec (sweep w) s).2.fetches
        = s.fetches ++ s.roster.map (fun h => (h, (s.contact h).address)) ∧
      ∀ h ∈ s.roster,
        (exec (sweep w) s).2.affairs h = (exec (check w h false) s.unheard).2.affairs h ∧
        ∀ (w' : Outside) (s' : Newsroom), (s'.contacts.map Contact.address).Nodup →
          h ∈ s'.roster → s'.affairs h = s.affairs h →
          w'.fetch (s.contact h).address = w.fetch (s.contact h).address → w'.ask = w.ask →
          (exec (sweep w') s').2.affairs h = (exec (sweep w) s).2.affairs h := by
  obtain ⟨t, hsweep, hspared, _⟩ := exec_checkAll w s.roster s
  refine ⟨?_, ?_, fun h hh => ⟨?_, fun w' s' hs' hh' hsame hfetch hask => ?_⟩⟩
  · rw [exec_sweep, hsweep]
  · obtain ⟨more, htrace, hfeeds, _⟩ := hspared.trace
    rw [exec_sweep, hsweep, fetches, htrace, List.filterMap_append, hfeeds]
    rfl
  · rw [affairs_sweep hs.orderly.distinct hw hh s.unheard.questions, affairs_check]
    rfl
  · have hw' : w'.Steady := by rwa [Outside.Steady, hask]
    have haddress : (s'.contact h).address = (s.contact h).address :=
      congrArg (·.contact.address) hsame
    have hanswer : w'.answer 0 = w.answer 0 := by
      unfold Outside.answer
      rw [hask]
    rw [affairs_sweep hs' hw' hh' 0, affairs_sweep hs.orderly.distinct hw hh 0, hsame, haddress,
      hfetch, hanswer]

/-- A world in which the feed at one address is gone, which the user wants removed. -/
def goneWorld (address : Option String) (feed : Feed) : Outside :=
  { Outside.showing feed with
    fetch := fun a => if a = address then .error (.gone "410") else .ok feed
    ask := some fun _ _ => .ok true }

def pair : Newsroom :=
  let subscribed (s : Newsroom) (address : String) :=
    (exec (Act.run (.showing (.bare [])) (.subscribe (some address) .null)) s).2
  subscribed (subscribed bare "a") "b"

theorem reachable_pair : pair.Reachable :=
  have hbare : bare.Reachable := .start fun _ hst => nomatch hst
  have hfirst := hbare.act (.showing (.bare [])) (.subscribe (some "a") .null)
    fun _ hm => nomatch hm
  hfirst.act (.showing (.bare [])) (.subscribe (some "b") .null) fun _ hm => nomatch hm

/-- A feed that is gone takes its contact off the list, and the one after it is looked at all the
same. -/
theorem sweep_past_gone :
    let after := (exec (sweep (goneWorld (some "a") (.bare ["two", "one"]))) pair).2
    (after.affairs 0).listed = 0 ∧
      (after.affairs 1).contact.marker.map Marker.text = some "token:two" := by
  intro after
  have hw : (goneWorld (some "a") (.bare ["two", "one"])).Steady :=
    fun _ hask _ _ _ => by cases hask; rfl
  obtain ⟨_, _, haffairs⟩ := sweep_isolated reachable_pair hw
  obtain ⟨hfirst, _⟩ := haffairs 0 (by decide)
  obtain ⟨hsecond, _⟩ := haffairs 1 (by decide)
  rw [hfirst, hsecond]
  exact ⟨rfl, rfl⟩

end Newsroom

end Newswire

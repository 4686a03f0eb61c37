import Newswire.Proofs.Delivery.Runs
import Newswire.Proofs.Membership

/-!
Operations on the list that are refused. Loading reads all rows before it puts anyone into the list,
and subscribing puts the contact into the store before the list; so when either is refused, nothing
has changed. Ending a subscription takes the contact out of the list first. If the store does not
remove its row then, the contact is out of the list and its row still in the table. That is the only
way in which a refused operation leaves anything behind.
-/

namespace Newswire

open Newsroom

namespace Act

/-- It is an operation on the list. -/
def Lists : Act → Prop
  | load | subscribe _ _ | unsubscribe _ => True
  | _ => False

/-- It ends the subscription of a contact in the list whose row the store does not remove. -/
def HalfEnds (s : Newsroom) : Act → Prop
  | unsubscribe h => h ∈ s.roster ∧
      ∃ store, s.store = some store ∧ store.clears (s.contact h).address = false
  | _ => False

end Act

theorem Store.clears_eq_false_iff {s : Store} {address : Option String} :
    s.clears address = false ↔ ∃ fault, s.delete address = .error fault := by
  rw [← isOk_delete]
  cases s.delete address with
  | error fault => exact iff_of_true rfl ⟨fault, rfl⟩
  | ok found => exact iff_of_false (nomatch ·) fun ⟨_, hf⟩ => nomatch hf

namespace Newsroom

variable {s t : Newsroom} {w : Outside} {act : Act} {fault : Fault} {h : Handle}

/-! ### One operation -/

theorem load_refused (he : exec (load w) s = (.error fault, t)) : t = s := by
  rw [exec_load] at he
  split at he
  · cases he
  · split at he
    · cases he
      rfl
    · cases he

theorem subscribe_refused {address : Option String} {name : Value}
    (he : exec (subscribe w address name) s = (.error fault, t)) : t = s := by
  rw [exec_subscribe] at he
  split at he
  · cases he
    rfl
  · dsimp only at he
    split at he
    · cases he
    · split at he
      · cases he
        rfl
      · cases he

theorem unsubscribe_of_halfEnds (hhalf : (Act.unsubscribe h).HalfEnds s) :
    ∃ fault, exec (unsubscribe h) s = (.error fault, { s with roster := s.roster.erase h }) := by
  obtain ⟨hlisted, store, hstore, hclears⟩ := hhalf
  obtain ⟨fault, hdelete⟩ := Store.clears_eq_false_iff.mp hclears
  refine ⟨fault, ?_⟩
  rw [exec_unsubscribe, if_neg (not_not.mpr hlisted)]
  simp only [hstore, hdelete]

theorem unsubscribe_refused (he : exec (unsubscribe h) s = (.error fault, t))
    (hhalf : ¬ (Act.unsubscribe h).HalfEnds s) : t = s := by
  rw [exec_unsubscribe] at he
  by_cases hlisted : h ∈ s.roster
  · rw [if_neg (not_not.mpr hlisted)] at he
    dsimp only at he
    split at he
    · cases he
    · next store hstore =>
      split at he
      · next hdelete =>
        exact absurd ⟨hlisted, store, hstore, Store.clears_eq_false_iff.mpr ⟨_, hdelete⟩⟩ hhalf
      · cases he
  · rw [if_pos hlisted] at he
    cases he
    rfl

theorem unchanged_of_refused (hact : act.Lists) (he : exec (act.run w) s = (.error fault, t))
    (hhalf : ¬ act.HalfEnds s) : t = s := by
  have hdiscard {α : Type} {x : Engine α} (hx : exec (discard x) s = (.error fault, t)) :
      exec x s = (.error fault, t) := by
    rw [exec_discard] at hx
    rcases hrun : exec x s with ⟨fault' | a, u⟩
    all_goals
      rw [hrun] at hx
      cases hx
    rfl
  cases act with
  | load => exact load_refused (hdiscard he)
  | subscribe address name => exact subscribe_refused (hdiscard he)
  | unsubscribe h => exact unsubscribe_refused he hhalf
  | _ => exact hact.elim

/-- An operation on the list that is refused leaves the list, its contacts and the table as they
were, unless it half ends a subscription. To half end one is to be refused, and then the contact is
missing from the list, with all the others, all fields and all rows as they were. -/
theorem refused_unchanged_unless_half_ended (w : Outside) (s : Newsroom) (hact : act.Lists) :
    (∀ fault t, exec (act.run w) s = (.error fault, t) → (t = s ↔ ¬ act.HalfEnds s)) ∧
      (act.HalfEnds s → ∃ h ∈ s.roster, act = .unsubscribe h ∧ ∃ fault,
        exec (act.run w) s = (.error fault, { s with roster := s.roster.erase h })) := by
  have hhalfEnded (hhalf : act.HalfEnds s) : ∃ h ∈ s.roster, act = .unsubscribe h ∧ ∃ fault,
      exec (act.run w) s = (.error fault, { s with roster := s.roster.erase h }) := by
    cases act with
    | unsubscribe h => exact ⟨h, hhalf.1, rfl, unsubscribe_of_halfEnds hhalf⟩
    | _ => exact hhalf.elim
  refine ⟨fun fault t he => ⟨?_, unchanged_of_refused hact he⟩, hhalfEnded⟩
  rintro rfl hhalf
  obtain ⟨h, hlisted, _, _, he'⟩ := hhalfEnded hhalf
  have hsame : t.roster = t.roster.erase h :=
    congrArg Newsroom.roster (congrArg Prod.snd (he.symm.trans he'))
  have hshorter := List.length_erase_of_mem hlisted
  have hsome := List.length_pos_of_mem hlisted
  rw [← hsame] at hshorter
  omega

def unreadable : Store :=
  ⟨[⟨1, "a", "Old", "away", none, true, ""⟩], 1, true⟩

/-- Loading is refused for a row that cannot be read, and a contact that is listed stays alone. -/
theorem load_refused_for_row :
    let w := Outside.showing (Feed.bare [])
    let s := { bare with size := 1, roster := [0], store := some unreadable }
    exec (Act.load.run w) s = (.error (.unknownPresence "away"), s) := by
  intro w s
  have he : exec (Act.load.run w) s
      = (.error (.unknownPresence "away"), (exec (Act.load.run w) s).2) := rfl
  have hload : Act.load.Lists := trivial
  have hsame := ((refused_unchanged_unless_half_ended w s hload).1 _ _ he).mpr id
  exact he.trans (congrArg (Prod.mk _) hsame)

/-! ### Runs -/

/-- Those of some turns that are not refused when their time comes. -/
def granted : Newsroom → List Turn → List Turn
  | _, [] => []
  | s, turn :: rest =>
    match (exec (turn.act.run turn.world) s).1 with
    | .ok _ => turn :: granted (s.pass turn) rest
    | .error _ => granted (s.pass turn) rest

/-- Operations on the list that are refused might as well not have been tried, as long as no
subscription is half ended. -/
theorem course_granted {turns : List Turn}
    (hturns : s.Throughout (fun s turn => turn.act.Lists ∧ ¬ turn.act.HalfEnds s) turns) :
    s.course (s.granted turns) = s.course turns := by
  induction turns generalizing s with
  | nil => rfl
  | cons turn rest ih =>
    obtain ⟨⟨hact, hhalf⟩, hrest⟩ := hturns
    have hih := ih hrest
    rcases he : exec (turn.act.run turn.world) s with ⟨fault | _, t⟩
    · have hsame : s.pass turn = s := by
        rw [pass, he]
        exact unchanged_of_refused hact he hhalf
      rw [hsame] at hih
      simp only [granted, he, hsame]
      rw [hih, course, course, List.foldl_cons, hsame]
    · simp only [granted, he]
      exact hih

/-! ### Half ended -/

/-- It is not so that every operation on the list that is refused leaves all as it was: when the
store was closed after someone subscribed, ending the subscription takes the contact off the list,
and its row stays. -/
theorem half_ended_when_closed :
    ¬ ∀ (w : Outside) (s t : Newsroom) (act : Act) (fault : Fault), act.Lists →
      exec (act.run w) s = (.error fault, t) → t = s := by
  intro hall
  let w := Outside.showing (Feed.bare [])
  let s := blank.course [⟨w, .subscribe (some "http://a/f") .null⟩, ⟨w, .close⟩]
  have hroster : s.roster = [0] := rfl
  have he : exec ((Act.unsubscribe 0).run w) s = (.error .storeClosed, { s with roster := [] }) := rfl
  have hends : (Act.unsubscribe 0).Lists := trivial
  have hsame := hall w s _ _ _ hends he
  have hempty : [] = s.roster := congrArg Newsroom.roster hsame
  rw [hroster] at hempty
  cases hempty

end Newsroom

end Newswire

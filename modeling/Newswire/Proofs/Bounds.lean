import Newswire.Proofs.Saving

/-!
What an operation on one contact can do at most. Such a bound is a relation of the newsroom before
and after it. When the single steps that operations are made of stay within a bound, so does every
operation, however it ends; here it is told of what follows when a feed is gone.
-/

namespace Newswire.Newsroom

variable {α β : Type} {R : Newsroom → Newsroom → Prop} {h : Handle}

/-- The operation stays within the bound, however it ends. -/
def Within (R : Newsroom → Newsroom → Prop) (x : Engine α) : Prop :=
  ∀ s, R s (exec x s).2

theorem Within.ite {p : Prop} [Decidable p] {x y : Engine α} (hx : Within R x)
    (hy : Within R y) : Within R (if p then x else y) := by
  split
  · exact hx
  · exact hy

/-- Doing nothing stays within the bound, and so does one step after another. -/
structure Bound (R : Newsroom → Newsroom → Prop) : Prop where
  refl : ∀ s, R s s
  trans : ∀ {s t u}, R s t → R t u → R s u

namespace Bound

theorem pure (b : Bound R) (a : α) : Within R (Pure.pure a : Engine α) :=
  b.refl

theorem throw (b : Bound R) (fault : Fault) : Within R (MonadExcept.throw fault : Engine α) :=
  b.refl

theorem contactOf (b : Bound R) (i : Handle) : Within R (Newsroom.contactOf i) :=
  b.refl

theorem lift (b : Bound R) (x : Except Fault α) : Within R (Newsroom.lift x) := by
  intro s
  rw [exec_lift]
  exact b.refl s

theorem bind (b : Bound R) {x : Engine α} {f : α → Engine β} (hx : Within R x)
    (hf : ∀ a, Within R (f a)) : Within R (x >>= f) := by
  intro s
  have hfirst := hx s
  rw [exec_bind]
  rcases he : exec x s with ⟨fault | a, t⟩
  all_goals rw [he] at hfirst
  · exact hfirst
  · exact b.trans hfirst (hf a t)

theorem tryCatch (b : Bound R) {x : Engine α} {f : Fault → Engine α} (hx : Within R x)
    (hf : ∀ fault, Within R (f fault)) : Within R (tryCatch x f) := by
  intro s
  have hfirst := hx s
  rw [exec_tryCatch]
  rcases he : exec x s with ⟨fault | a, t⟩
  all_goals rw [he] at hfirst
  · exact b.trans hfirst (hf fault t)
  · exact hfirst

end Bound

/-! ### Presence -/

structure PresenceBound (h : Handle) (R : Newsroom → Newsroom → Prop) : Prop extends Bound R where
  noted : ∀ note, Within R (record (.noted note))
  presence : ∀ p, Within R (edit h fun c => { c with presence := p })
  saved : ∀ {s store store'}, s.store = some store → (s.contact h).persistent = true →
    store.update (s.contact h) = .ok store' → R s { s with store := some store' }

namespace PresenceBound

variable (b : PresenceBound h R)
include b

theorem save : Within R (Newsroom.save h) := by
  intro s
  unfold Newsroom.save
  rw [exec_bind, exec_get]
  dsimp only
  cases hstore : s.store with
  | none => exact b.refl s
  | some store =>
    dsimp only
    split
    · next hp =>
      rw [exec_bind, exec_lift]
      cases hu : store.update (s.contact h) with
      | error fault => exact b.refl s
      | ok store' => exact b.saved hstore hp hu
    · exact b.refl s

theorem setPresence (p : Presence) : Within R (Newsroom.setPresence h p) := by
  refine b.bind (b.contactOf h) fun _ => b.bind (b.presence p) fun _ => .ite ?_ b.save
  exact b.bind (b.contactOf h) fun _ => b.bind (b.noted _) fun _ => b.save

theorem goOffline : Within R (Newsroom.goOffline h) :=
  b.bind (b.contactOf h) fun _ =>
    .ite (b.pure _) (b.bind (b.setPresence .offline) fun _ => b.pure _)

theorem background {work : Engine Unit} (hwork : Within R work) (name : String) :
    Within R (Newsroom.background name work) :=
  b.tryCatch hwork fun _ => b.noted _

end PresenceBound

/-! ### Feeds that are gone -/

structure RecoveryBound (h : Handle) (R : Newsroom → Newsroom → Prop) : Prop
    extends PresenceBound h R where
  asked : ∀ question answer, Within R (record (.asked h question answer))
  counted : ∀ s, R s { s with questions := s.questions + 1 }
  unsubscribed : Within R (unsubscribe h)

namespace RecoveryBound

variable (b : RecoveryBound h R)
include b

theorem removeDead : Within R (Newsroom.removeDead h) := by
  refine b.tryCatch b.unsubscribed fun fault => ?_
  split
  · exact b.noted _
  · exact b.throw _

theorem recover (w : Outside) : Within R (Newsroom.recover w h) := by
  refine b.bind b.goOffline fun changed => .ite ?_ (b.pure _)
  split
  · exact b.pure _
  · refine b.bind (b.refl ·) fun s => b.bind b.counted fun _ => b.bind (b.asked _ _) fun _ => ?_
    split
    · exact b.removeDead
    · exact b.pure _
    · exact b.noted _

theorem reportGone (w : Outside) : Within R (Newsroom.reportGone w h) :=
  b.background (b.recover w) _

end RecoveryBound

theorem Keeps.unsubscribe {γ : Type} {view : Newsroom → γ}
    (noted : ∀ note, Keeps view (record (.noted note)))
    (rest : ∀ (s : Newsroom) roster store,
      view { s with roster := roster, store := store } = view s) :
    Keeps view (Newsroom.unsubscribe h) := by
  refine Keeps.get.bind fun s => ?_
  dsimp only
  -- both branches go on alike, but the first one has failed by then
  refine .ite (.bind (.throw _) fun _ => ?_) ?_
  all_goals
    refine .bind (.modify fun s => rest s _ s.store) fun _ => ?_
    split
    · exact noted _
    · exact .bind (.lift _) fun _ => .bind (.modify fun s => rest s s.roster _) fun _ => noted _

/-- What the steps leave alone, the operations leave alone. -/
theorem RecoveryBound.of_view {γ : Type} {view : Newsroom → γ}
    (noted : ∀ note, Keeps view (record (.noted note)))
    (asked : ∀ question answer, Keeps view (record (.asked h question answer)))
    (presence : ∀ p, Keeps view (edit h fun c => { c with presence := p }))
    (rest : ∀ (s : Newsroom) roster store questions,
      view { s with roster := roster, store := store, questions := questions } = view s) :
    RecoveryBound h fun s t => view t = view s where
  refl _ := rfl
  trans hst htu := htu.trans hst
  noted := noted
  asked := asked
  counted s := rest s s.roster s.store (s.questions + 1)
  presence := presence
  saved {s} _ store' _ _ _ := rest s s.roster (some store') s.questions
  unsubscribed := Keeps.unsubscribe noted fun s roster store => rest s roster store s.questions

end Newswire.Newsroom

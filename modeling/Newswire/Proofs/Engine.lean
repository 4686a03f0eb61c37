import Newswire.Newsroom.Basic

/-!
How operations of the newsroom run. An operation comes to a result or to a fault, and either way it
leaves a newsroom behind. Two ways to speak of it: `exec` says what the newsroom is afterwards, and
`Keeps` says which view of it an operation leaves alone, however it ends.
-/

namespace Newswire.Newsroom

variable {α β γ : Type}

/-- What an operation comes to, and the newsroom after it. -/
def exec (x : Engine α) (s : Newsroom) : Except Fault α × Newsroom :=
  x.run.run s

/-! ### Running -/

@[simp]
theorem exec_pure (a : α) (s : Newsroom) : exec (pure a) s = (.ok a, s) := rfl

@[simp]
theorem exec_get (s : Newsroom) : exec get s = (.ok s, s) := rfl

@[simp]
theorem exec_modify (change : Newsroom → Newsroom) (s : Newsroom) :
    exec (modify change) s = (.ok (), change s) := rfl

@[simp]
theorem exec_lift (x : Except Fault α) (s : Newsroom) : exec (lift x) s = (x, s) := by
  cases x <;> rfl

@[simp]
theorem exec_contactOf (h : Handle) (s : Newsroom) :
    exec (contactOf h) s = (.ok (s.contact h), s) := rfl

@[simp]
theorem exec_edit (h : Handle) (change : Contact → Contact) (s : Newsroom) :
    exec (edit h change) s = (.ok (), s.withContact h (change (s.contact h))) := rfl

@[simp]
theorem exec_record (entry : Entry) (s : Newsroom) :
    exec (record entry) s = (.ok (), { s with trace := s.trace ++ [entry] }) := rfl

theorem exec_bind (x : Engine α) (f : α → Engine β) (s : Newsroom) :
    exec (x >>= f) s = match exec x s with
      | (.ok a, t) => exec (f a) t
      | (.error fault, t) => (.error fault, t) := by
  simp only [exec, ExceptT.run_bind, StateT.run_bind]
  rcases x.run.run s with ⟨_ | _, t⟩ <;> rfl

theorem exec_map (f : α → β) (x : Engine α) (s : Newsroom) :
    exec (f <$> x) s = ((exec x s).1.map f, (exec x s).2) := by
  rw [← bind_pure_comp, exec_bind]
  rcases exec x s with ⟨_ | _, t⟩ <;> rfl

theorem exec_discard (x : Engine α) (s : Newsroom) :
    exec (discard x) s = ((exec x s).1.map fun _ => (), (exec x s).2) :=
  exec_map (fun _ => ()) x s

theorem exec_tryCatch (x : Engine α) (f : Fault → Engine α) (s : Newsroom) :
    exec (tryCatch x f) s = match exec x s with
      | (.ok a, t) => (.ok a, t)
      | (.error fault, t) => exec (f fault) t := by
  show (tryCatch x f : Engine α).run.run s = _
  simp only [exec, ExceptT.run_tryCatch, StateT.run_bind]
  rcases x.run.run s with ⟨_ | _, t⟩ <;> rfl

/-! ### What an operation leaves alone -/

/-- The operation leaves this view of the newsroom as it is, however it ends. -/
def Keeps (view : Newsroom → γ) (x : Engine α) : Prop :=
  ∀ s, view (exec x s).2 = view s

variable {view : Newsroom → γ}

theorem Keeps.of_exec {x : Engine α} (hx : Keeps view x) {s t : Newsroom} {r : Except Fault α}
    (he : exec x s = (r, t)) : view t = view s := by
  have h := hx s
  rwa [he] at h

theorem Keeps.pure (a : α) : Keeps view (Pure.pure a : Engine α) :=
  fun _ => rfl

theorem Keeps.throw (fault : Fault) : Keeps view (MonadExcept.throw fault : Engine α) :=
  fun _ => rfl

theorem Keeps.get : Keeps view (MonadState.get : Engine Newsroom) :=
  fun _ => rfl

theorem Keeps.lift (x : Except Fault α) : Keeps view (Newsroom.lift x) := by
  intro s
  rw [exec_lift]

theorem Keeps.modify {change : Newsroom → Newsroom} (h : ∀ s, view (change s) = view s) :
    Keeps view (modify change : Engine Unit) :=
  h

theorem Keeps.bind {x : Engine α} {f : α → Engine β} (hx : Keeps view x)
    (hf : ∀ a, Keeps view (f a)) : Keeps view (x >>= f) := by
  intro s
  rw [exec_bind]
  rcases he : exec x s with ⟨fault | a, t⟩
  · exact hx.of_exec he
  · exact (hf a t).trans (hx.of_exec he)

theorem Keeps.after {f : α → Engine β} (hf : ∀ a, Keeps view (f a)) (x : Engine α)
    (s : Newsroom) : view (exec (x >>= f) s).2 = view (exec x s).2 := by
  rw [exec_bind]
  rcases exec x s with ⟨fault | a, t⟩
  · rfl
  · exact hf a t

theorem Keeps.ite {p : Prop} [Decidable p] {x y : Engine α} (hx : Keeps view x)
    (hy : Keeps view y) : Keeps view (if p then x else y) := by
  split
  · exact hx
  · exact hy

end Newswire.Newsroom

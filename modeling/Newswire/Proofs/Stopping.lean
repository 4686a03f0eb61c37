/-!
Lists that are gone through one by one until a member ends it. That member still has its turn, and
those behind it have none.
-/

namespace Newswire

variable {α : Type} {p : α → Bool}

/-- The members up to the first with the property, and this one too; all of them if none has it. -/
def upTo (p : α → Bool) (as : List α) : List α :=
  as.take (as.findIdx p + 1)

theorem upTo_cons (a : α) (rest : List α) :
    upTo p (a :: rest) = a :: if p a then [] else upTo p rest := by
  unfold upTo
  rw [List.take_succ_cons, List.findIdx_cons]
  cases p a <;> rfl

theorem isPrefix_upTo (as : List α) : upTo p as <+: as :=
  List.take_prefix _ as

theorem upTo_eq_self {as : List α} (h : ∀ a ∈ as, p a = false) : upTo p as = as := by
  unfold upTo
  rw [List.findIdx_eq_length_of_false h]
  exact List.take_of_length_le (Nat.le_succ _)

theorem upTo_of_first {before after : List α} {a : α} (h : ∀ b ∈ before, p b = false)
    (ha : p a = true) : upTo p (before ++ a :: after) = before ++ [a] := by
  induction before with
  | nil =>
    rw [List.nil_append, upTo_cons, if_pos ha]
    rfl
  | cons b rest ih =>
    obtain ⟨hb, hrest⟩ := List.forall_mem_cons.mp h
    rw [List.cons_append, upTo_cons, if_neg (Bool.eq_false_iff.mp hb), ih hrest, List.cons_append]

theorem lt_length_upTo_iff {as : List α} {k : Nat} :
    k < (upTo p as).length ↔ k < as.length ∧ ∀ j < k, ∀ a ∈ as[j]?, p a = false := by
  induction as generalizing k with
  | nil => exact iff_of_false (Nat.not_lt_zero k) fun h => Nat.not_lt_zero k h.1
  | cons a rest ih =>
    rw [upTo_cons, List.length_cons, List.length_cons]
    cases k with
    | zero => exact iff_of_true (Nat.zero_lt_succ _) ⟨Nat.zero_lt_succ _, fun _ h => nomatch h⟩
    | succ k =>
      rw [Nat.add_lt_add_iff_right, Nat.add_lt_add_iff_right, Nat.forall_lt_succ_left]
      cases ha : p a with
      | true => simp [ha]
      | false => simp [ha, ih]

theorem takeWhile_append_stop {inside rest : List α} (h : ∀ a ∈ inside, p a = true)
    (hstop : ∀ a ∈ rest.head?, p a = false) : (inside ++ rest).takeWhile p = inside := by
  rw [List.takeWhile_append_of_pos h]
  cases rest with
  | nil => rw [List.takeWhile_nil, List.append_nil]
  | cons a tail =>
    rw [List.takeWhile_cons_of_neg (Bool.eq_false_iff.mp (hstop a rfl)), List.append_nil]

theorem dropWhile_append_stop {inside rest : List α} (h : ∀ a ∈ inside, p a = true)
    (hstop : ∀ a ∈ rest.head?, p a = false) : (inside ++ rest).dropWhile p = rest := by
  rw [List.dropWhile_append_of_pos h]
  cases rest with
  | nil => rfl
  | cons a tail => rw [List.dropWhile_cons_of_neg (Bool.eq_false_iff.mp (hstop a rfl))]

theorem stops_dropWhile {as : List α} : ∀ a ∈ (as.dropWhile p).head?, p a = false := by
  intro a ha
  have hstop := List.head?_dropWhile_not p as
  rwa [Option.mem_def.mp ha] at hstop

end Newswire

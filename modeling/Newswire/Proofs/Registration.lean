import Mathlib.Data.Set.Card
import Newswire.Proofs.Dispatch

/-!
Who is registered, told from what was done in the past. The past is the list of all changes of
registrations in the order in which they were made, by whomever: those that listeners make during a
round are among them, up to the failure that ends it. Every single change, and so every past, leaves
those whose most recent change registered them, in the order in which they joined. The length of the
past before a change is the time of the change.
-/

namespace Newswire

variable {L : Type}

/-- What is done with an audience. At each event the listeners may react in another way; what comes
of a further event that one of them tells meanwhile is part of its reactions. -/
inductive Deed (L : Type) where
  | add (listener : L)
  | remove (listener : L)
  | tell (react : L → Event → List (Reaction L)) (event : Event)

/-! ### The past -/

def Reaction.listener? : Reaction L → Option L
  | .add listener | .remove listener => some listener
  | .fail _ => none

/-- The listener joined at this time: it was registered then, it has not been unregistered since,
and whenever it was registered before, it was unregistered in between. -/
structure Joined (past : List (Reaction L)) (l : L) (t : Nat) : Prop where
  added : past[t]? = some (.add l)
  stayed : ∀ s > t, past[s]? ≠ some (.remove l)
  first : ∀ s < t, past[s]? = some (.add l) → ∃ r, s < r ∧ r < t ∧ past[r]? = some (.remove l)

section

variable {past : List (Reaction L)} {change : Reaction L} {l : L} {s t : Nat}

theorem Joined.lt_length (h : Joined past l t) : t < past.length :=
  (List.getElem?_eq_some_iff.mp h.added).1

theorem Joined.unique (hs : Joined past l s) (ht : Joined past l t) : s = t := by
  -- Of two times, the later one comes after a removal that the earlier one rules out.
  have hnot {s t : Nat} (hs : Joined past l s) (ht : Joined past l t) : ¬ s < t := fun hlt => by
    obtain ⟨r, hsr, _, hr⟩ := ht.first s hlt hs.added
    exact hs.stayed r hsr hr
  exact Nat.le_antisymm (Nat.not_lt.mp (hnot ht hs)) (Nat.not_lt.mp (hnot hs ht))

theorem Joined.concat (h : Joined past l t) (hchange : change ≠ .remove l) :
    Joined (past ++ [change]) l t where
  added := by grind [h.added]
  stayed s hs := by grind [h.stayed s hs]
  first s hs hadd := by
    obtain ⟨r, hsr, hrt, hr⟩ := h.first s hs (by grind [h.lt_length])
    exact ⟨r, hsr, hrt, by grind⟩

end

variable [DecidableEq L] {past : List (Reaction L)} {change : Reaction L} {l : L} {t : Nat}

/-- The most recent change of a listener's registration. -/
def latest? (past : List (Reaction L)) (l : L) : Option (Reaction L) :=
  past.reverse.find? fun change => change.listener? = some l

theorem latest?_concat (past : List (Reaction L)) (change : Reaction L) (l : L) :
    latest? (past ++ [change]) l
      = if change.listener? = some l then some change else latest? past l := by
  unfold latest?
  rw [List.reverse_append, List.reverse_singleton, List.singleton_append, List.find?_cons]
  split <;> simp_all

theorem latest?_concat_eq_add_iff :
    latest? (past ++ [change]) l = some (.add l)
      ↔ change = .add l ∨ latest? past l = some (.add l) ∧ change ≠ .remove l := by
  rw [latest?_concat]
  cases change with
  | add m => grind [Reaction.listener?]
  | remove m => grind [Reaction.listener?]
  | fail fault => grind [Reaction.listener?]

/-- A listener is registered if it was registered at some time and not unregistered since. -/
theorem latest?_eq_add_iff : latest? past l = some (.add l)
    ↔ ∃ t : Nat, past[t]? = some (Reaction.add l) ∧
      ∀ s > t, past[s]? ≠ some (Reaction.remove l) := by
  induction past using List.reverseRecOn with
  | nil => simp [latest?]
  | append_singleton past change ih =>
    rw [latest?_concat_eq_add_iff, ih]
    constructor
    · rintro (rfl | ⟨⟨t, hadd, hstay⟩, hchange⟩)
      · exact ⟨past.length, List.getElem?_concat_length, fun s hs => by grind⟩
      · exact ⟨t, by grind, by grind⟩
    · rintro ⟨t, hadd, hstay⟩
      by_cases ht : t < past.length
      · exact .inr ⟨⟨t, by grind, by grind⟩, by grind⟩
      · exact .inl (by grind)

theorem joined_length (h : latest? past l ≠ some (.add l)) :
    Joined (past ++ [.add l]) l past.length where
  added := List.getElem?_concat_length
  stayed s hs := by grind
  first s hs hadd := by
    rw [Ne, latest?_eq_add_iff] at h
    grind

theorem Joined.of_concat (h : Joined (past ++ [change]) l t) :
    Joined past l t ∨ t = past.length ∧ change = .add l ∧ latest? past l ≠ some (.add l) := by
  rcases Nat.lt_or_ge t past.length with ht | ht
  · refine .inl ⟨?_, ?_, ?_⟩
    · grind [h.added]
    · intro s hs
      grind [h.stayed s hs]
    · intro s hs hadd
      obtain ⟨r, hsr, hrt, hr⟩ := h.first s hs (by grind)
      exact ⟨r, hsr, hrt, by grind⟩
  · have hlt := h.lt_length
    have ht : t = past.length := by grind
    subst ht
    refine .inr ⟨rfl, by grind [h.added], fun hlatest => ?_⟩
    obtain ⟨s, hs, hstay⟩ := latest?_eq_add_iff.mp hlatest
    obtain ⟨r, hsr, hrt, hr⟩ := h.first s (by grind) (by grind)
    exact hstay r hsr (by grind)

theorem Joined.latest (h : Joined past l t) : latest? past l = some (.add l) :=
  latest?_eq_add_iff.mpr ⟨t, h.added, h.stayed⟩

theorem exists_joined (h : latest? past l = some (.add l)) : ∃ t, Joined past l t := by
  induction past using List.reverseRecOn with
  | nil => exact nomatch h
  | append_singleton past change ih =>
    by_cases hbefore : latest? past l = some (.add l)
    · obtain ⟨t, ht⟩ := ih hbefore
      refine ⟨t, ht.concat ?_⟩
      rintro rfl
      obtain hadd | ⟨_, hkept⟩ := latest?_concat_eq_add_iff.mp h
      · exact nomatch hadd
      · exact hkept rfl
    · obtain rfl | ⟨hl, _⟩ := latest?_concat_eq_add_iff.mp h
      · exact ⟨past.length, joined_length hbefore⟩
      · exact absurd hl hbefore

/-- One listener joined before another. -/
def JoinedBefore (past : List (Reaction L)) (l m : L) : Prop :=
  ∀ s t, Joined past l s → Joined past m t → s < t

namespace Audience

variable {a : Audience L}

/-- The registrations follow from the past: nobody is registered twice, those are registered whose
most recent change registered them, and they stand in the order in which they joined. -/
structure Follows (a : Audience L) (past : List (Reaction L)) : Prop where
  nodup : a.members.Nodup
  mem_iff : ∀ l, l ∈ a.members ↔ latest? past l = some (.add l)
  ordered : a.members.Pairwise (JoinedBefore past)

namespace Follows

theorem ordered_concat (h : a.Follows past) (change : Reaction L) :
    a.members.Pairwise (JoinedBefore (past ++ [change])) := by
  have hbefore {l : L} {t : Nat} (hl : l ∈ a.members) (ht : Joined (past ++ [change]) l t) :
      Joined past l t :=
    ht.of_concat.resolve_right fun hnew => hnew.2.2 ((h.mem_iff l).mp hl)
  exact h.ordered.imp_of_mem fun hl hm hlm s t hs ht => hlm s t (hbefore hl hs) (hbefore hm ht)

theorem add (h : a.Follows past) (l : L) : (a.add l).Follows (past ++ [.add l]) where
  nodup := nodup_add h.nodup l
  mem_iff m := by
    rw [mem_add, h.mem_iff, latest?_concat_eq_add_iff]
    grind
  ordered := by
    have hordered := h.ordered_concat (.add l)
    unfold Audience.add
    split
    · exact hordered
    · next hl =>
      have hnew : latest? past l ≠ some (.add l) := fun hlatest => hl ((h.mem_iff l).mpr hlatest)
      refine List.pairwise_append.mpr ⟨hordered, List.pairwise_singleton _ l, ?_⟩
      -- Those who were registered joined in the past, the new one joins at its end.
      intro m hm k hk s t hs ht
      rw [List.mem_singleton.mp hk] at ht
      have hs : Joined past m s :=
        hs.of_concat.resolve_right fun hnew => hnew.2.2 ((h.mem_iff m).mp hm)
      obtain ht | ⟨rfl, _⟩ := ht.of_concat
      · exact absurd ht.latest hnew
      · exact hs.lt_length

theorem remove (h : a.Follows past) (l : L) : (a.remove l).Follows (past ++ [.remove l]) where
  nodup := nodup_remove h.nodup l
  mem_iff m := by
    rw [Audience.remove, h.nodup.mem_erase_iff, h.mem_iff, latest?_concat_eq_add_iff]
    grind
  ordered := (h.ordered_concat (.remove l)).sublist List.erase_sublist

theorem after (h : a.Follows past) (change : Reaction L) :
    (a.after change).Follows (past ++ [change]) := by
  cases change with
  | add l => exact h.add l
  | remove l => exact h.remove l
  | fail fault =>
    refine ⟨h.nodup, fun l => (h.mem_iff l).trans ?_, h.ordered_concat (.fail fault)⟩
    rw [latest?_concat_eq_add_iff]
    grind

theorem foldl (h : a.Follows past) (changes : List (Reaction L)) :
    (changes.foldl Audience.after a).Follows (past ++ changes) := by
  induction changes generalizing a past with
  | nil => rwa [List.append_nil]
  | cons change rest ih =>
    rw [List.append_cons]
    exact ih (h.after change)

theorem size_eq (h : a.Follows past) : a.size = {l | latest? past l = some (.add l)}.ncard := by
  have hset : {l | latest? past l = some (.add l)} = (a.members.toFinset : Set L) := by
    ext l
    simp only [← h.mem_iff, List.coe_toFinset]
  rw [hset, Set.ncard_coe_finset, List.toFinset_card_of_nodup h.nodup, size]

end Follows

/-! ### Deeds -/

/-- The audience after a deed. -/
def undergo (a : Audience L) : Deed L → Audience L
  | .add listener => a.add listener
  | .remove listener => a.remove listener
  | .tell react event => (a.tell react event).audience

/-- The changes of registrations that come with a deed, in the order in which they are made. -/
def changes (a : Audience L) : Deed L → List (Reaction L)
  | .add listener => [.add listener]
  | .remove listener => [.remove listener]
  | .tell react event => (a.tell react event).called.flatMap fun l => carriedOut (react l event)

def history (a : Audience L) : List (Deed L) → List (Reaction L)
  | [] => []
  | deed :: rest => a.changes deed ++ (a.undergo deed).history rest

theorem undergo_eq (a : Audience L) (deed : Deed L) :
    a.undergo deed = (a.changes deed).foldl after a := by
  cases deed with
  | add l => rfl
  | remove l => rfl
  | tell react event => exact audience_tell react a event

theorem foldl_undergo (a : Audience L) (deeds : List (Deed L)) :
    deeds.foldl undergo a = (a.history deeds).foldl after a := by
  induction deeds generalizing a with
  | nil => rfl
  | cons deed rest ih =>
    rw [List.foldl_cons, history, List.foldl_append, ← undergo_eq]
    exact ih (a.undergo deed)

theorem follows_empty (topic : Topic) : (empty topic : Audience L).Follows [] :=
  ⟨.nil, fun _ => iff_of_false List.not_mem_nil (nomatch ·), .nil⟩

/-- Whatever is done with an audience, the registrations are those that all changes leave which were
made by then, those of listeners among them, also when a failure ends a round. At every moment, in
the middle of a round too, nobody is registered twice; those are registered whose most recent change
registered them, and they stand in the order of the times at which they joined. How many there are,
and whether one of them is asked for, agrees with this, and an event reaches each of them at most
once and nobody else. -/
theorem registered_as_last_changed (topic : Topic) (deeds : List (Deed L)) :
    let start : Audience L := empty topic
    let history := start.history deeds
    deeds.foldl undergo start = history.foldl after start ∧
    ∀ n,
      let past := history.take n
      let a := past.foldl after start
      a.Follows past ∧ (∀ l ∈ a.members, ∃! t, Joined past l t) ∧
      a.size = {l | latest? past l = some (.add l)}.ncard ∧
      (∀ l, a.contains l = true ↔ latest? past l = some (.add l)) ∧
      ∀ react event, (a.tell react event).called.Nodup ∧
        ∀ l ∈ (a.tell react event).called, latest? past l = some (.add l) := by
  intro start history
  refine ⟨foldl_undergo start deeds, fun n => ?_⟩
  intro past a
  have hfollows : a.Follows past := (follows_empty topic).foldl past
  refine ⟨hfollows, fun l hl => ?_, hfollows.size_eq, fun l => ?_, fun react event => ?_⟩
  · obtain ⟨t, ht⟩ := exists_joined ((hfollows.mem_iff l).mp hl)
    exact ⟨t, ht, fun s hs => hs.unique ht⟩
  · rw [contains, decide_eq_true_iff, hfollows.mem_iff]
  · have hcalled := isPrefix_called react a event
    exact ⟨hfollows.nodup.sublist hcalled.sublist,
      fun l hl => (hfollows.mem_iff l).mp (hcalled.subset hl)⟩

/-- A listener that is registered twice keeps its place; those that unregister during a round and
register again stand at the end, also if a failure ends the round. -/
theorem rejoined_in_failed_round :
    let fault : Fault := .raised "busy"
    let react : String → Event → List (Reaction String) := fun listener _ =>
      if listener = "a" then [.remove "a", .add "c"]
      else [.remove "b", .add "b", .fail fault, .remove "c"]
    let event : Event := .received (.html "news") default
    let start : Audience String := empty .messages
    let deeds := [.add "a", .add "b", .add "a", .tell react event, .add "a"]
    let past := (start.history deeds).take 8
    let a := past.foldl after start
    past = [.add "a", .add "b", .add "a", .remove "a", .add "c", .remove "b", .add "b", .add "a"] ∧
      deeds.foldl undergo start = a ∧ a.members = ["c", "b", "a"] ∧
      "b" ∈ a.members ∧ (∃! t, Joined past "b" t) ∧
      "c" ∈ (a.tell react event).called ∧ latest? past "c" = some (.add "c") := by
  intro fault react event start deeds past a
  obtain ⟨hcourse, hmoment⟩ := registered_as_last_changed .messages deeds
  obtain ⟨_, hjoined, _, _, htold⟩ := hmoment 8
  have hall : past = start.history deeds := rfl
  rw [← hall] at hcourse
  have hmembers : a.members = ["c", "b", "a"] := by decide
  have hb : "b" ∈ a.members := by decide
  have hc : "c" ∈ (a.tell react event).called := by decide
  exact ⟨rfl, hcourse, hmembers, hb, hjoined "b" hb, hc, (htold react event).2 "c" hc⟩

end Audience

end Newswire

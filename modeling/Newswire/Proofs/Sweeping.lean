import Newswire.Proofs.Listing

/-!
A sweep, look by look. No fault ends it, each contact of the list is looked at once and in its turn,
and what becomes of its affairs is what one look makes of them: the looks before it and after it are
about other addresses.
-/

namespace Newswire.Newsroom

variable {s : Newsroom} {w : Outside} {h : Handle}

theorem exists_checkInSweep_eq (w : Outside) (h : Handle) (s : Newsroom) :
    ∃ notes : List Journal.Note,
      exec (checkInSweep w h) s = (.ok (), (exec (check w h false) s).2.noting notes) := by
  unfold checkInSweep
  rw [exec_tryCatch, exec_discard]
  rcases exec (check w h false) s with ⟨fault | outcome, t⟩
  · exact ⟨[⟨.error, .refresh, "Failed to refresh feed for " ++ (t.contact h).text, some fault⟩],
      rfl⟩
  · exact ⟨[], congrArg _ (noting_nil t).symm⟩

theorem exec_checkInSweep (w : Outside) (h : Handle) (s : Newsroom) :
    ∃ t, exec (checkInSweep w h) s = (.ok (), t) ∧
      Sparing [h] [(h, (s.contact h).address)] s t ∧
      t.affairs h = (s.affairs h).look (w.fetch (s.contact h).address)
        (w.answer s.questions (s.contact h).address) := by
  obtain ⟨notes, hlooked⟩ := exists_checkInSweep_eq w h s
  refine ⟨_, hlooked, ?_, ?_⟩
  · exact (sparing_check (List.mem_singleton_self h) w false s).trans (.noting [h] _ notes)
  · rw [affairs_noting]
    exact affairs_check w h false s

theorem exec_checkAll (w : Outside) (hs : List Handle) (s : Newsroom) :
    ∃ t, exec (hs.forM (checkInSweep w)) s = (.ok (), t) ∧
      Sparing hs (hs.map fun h => (h, (s.contact h).address)) s t ∧
      ((hs.map fun h => (s.contact h).address).Nodup → ∀ h ∈ hs, ∃ n,
        t.affairs h = (s.affairs h).look (w.fetch (s.contact h).address)
          (w.answer n (s.contact h).address)) := by
  induction hs generalizing s with
  | nil => exact ⟨s, rfl, .refl [] s, fun _ h hm => nomatch hm⟩
  | cons first rest ih =>
    obtain ⟨t, hfirst, hspared, haffairs⟩ := exec_checkInSweep w first s
    obtain ⟨u, hrest, hspared', haffairs'⟩ := ih t
    simp only [hspared.address] at hspared' haffairs'
    refine ⟨u, ?_, ?_, fun hnodup h hm => ?_⟩
    · rw [List.forM_eq_forM] at hrest ⊢
      rw [List.forM_cons, exec_bind, hfirst]
      exact hrest
    · exact hspared.cons hspared'
    · obtain ⟨hnew, hnodup⟩ := List.nodup_cons.mp hnodup
      have hother : ∀ i ∈ rest, (s.contact first).address ≠ (s.contact i).address :=
        fun i hi heq => hnew (List.mem_map.mpr ⟨i, hi, heq.symm⟩)
      rcases List.mem_cons.mp hm with rfl | hm
      · -- the looks that follow are at other addresses
        have hkept : u.affairs h = t.affairs h := hspared'.affairs
          (fun hi => hother h hi rfl) fun i hi => by
            simp only [hspared.address]
            exact (hother i hi).symm
        exact ⟨s.questions, hkept.trans haffairs⟩
      · obtain ⟨n, hn⟩ := haffairs' hnodup h hm
        have hkept : t.affairs h = s.affairs h := hspared.affairs
          (fun hi => hother h hm (by rw [List.mem_singleton.mp hi])) fun i hi => by
            rw [List.mem_singleton.mp hi]
            exact hother h hm
        exact ⟨n, hkept ▸ hn⟩

theorem exec_sweep (w : Outside) (s : Newsroom) :
    exec (sweep w) s = exec (s.roster.forM (checkInSweep w)) s := by
  unfold sweep
  rw [exec_bind, exec_get]

end Newswire.Newsroom

import Newswire.Proofs.Bounds

/-!
Presence. A contact that was offline is brought back online before anything else becomes of its
feed, and that fails only when the store does not take it. A feed that is gone touches nothing of
its contact but the presence, and brings no message, whatever the user answers.
-/

namespace Newswire

def Contact.online (c : Contact) : Contact := { c with presence := .online }

theorem Contact.online_of_ne_offline {c : Contact} (hc : c.presence ≠ .offline) : c.online = c := by
  have hp : c.presence = .online := by
    cases h : c.presence with
    | online => rfl
    | offline => exact absurd h hc
  rw [online, ← hp]

namespace Newsroom

def noting (s : Newsroom) (notes : List Journal.Note) : Newsroom :=
  { s with trace := s.trace ++ notes.map Entry.noted }

@[simp]
theorem noting_nil (s : Newsroom) : s.noting [] = s := by
  simp only [noting, List.map_nil, List.append_nil]

theorem noting_noting (s : Newsroom) (notes more : List Journal.Note) :
    (s.noting notes).noting more = s.noting (notes ++ more) := by
  simp only [noting, List.map_append, List.append_assoc]

@[simp]
theorem contact_noting (s : Newsroom) (notes : List Journal.Note) :
    (s.noting notes).contact = s.contact := rfl

@[simp]
theorem received_noting (s : Newsroom) (notes : List Journal.Note) (h : Handle) :
    (s.noting notes).received h = s.received h := by
  have hnotes : (notes.map Entry.noted).filterMap (Entry.received? h) = [] := by
    simp only [List.filterMap_map, List.filterMap_eq_nil_iff, Function.comp_apply]
    intro note _
    rfl
  rw [noting, received_append, hnotes, List.append_nil]

@[simp]
theorem exec_note (level : Journal.Level) (part : Journal.Part) (text : String) (s : Newsroom) :
    exec (note level part text) s = (.ok (), s.noting [⟨level, part, text, none⟩]) := rfl

theorem exec_setPresence (h : Handle) (p : Presence) (s : Newsroom) :
    ∃ notes, exec (setPresence h p) s =
      exec (save h) ((s.withContact h { s.contact h with presence := p }).noting notes) := by
  simp only [setPresence, exec_bind, exec_contactOf, exec_edit]
  split
  · simp only [exec_bind, exec_contactOf, exec_note]
    exact ⟨_, rfl⟩
  · exact ⟨[], by rw [noting_nil]⟩

/-! ### Coming back online -/

def comeBack (h : Handle) : Engine Unit := do
  if (← contactOf h).presence = .offline then setPresence h .online

theorem exec_comeBack_of_canSave {s : Newsroom} {h : Handle}
    (hs : (s.contact h).presence = .offline → s.CanSave (s.contact h)) :
    ∃ t, exec (comeBack h) s = (.ok (), t) ∧
      t.contact = (s.withContact h (s.contact h).online).contact ∧
      t.received = s.received ∧ ∀ c, s.CanSave c → t.CanSave c := by
  by_cases hp : (s.contact h).presence = .offline
  · obtain ⟨notes, hset⟩ := exec_setPresence h .online s
    let back := (s.withContact h (s.contact h).online).noting notes
    have hback : back.contact h = (s.contact h).online := contact_withContact s h _
    have hsave : back.CanSave (back.contact h) := by
      rw [hback]
      exact (hs hp).presence .online
    obtain ⟨store, hexec, hcan⟩ := exec_save_of_canSave hsave
    refine ⟨{ back with store := store }, ?_, rfl, ?_, hcan⟩
    · simp only [comeBack, exec_bind, exec_contactOf, if_pos hp, hset]
      exact hexec
    · exact funext fun i => received_noting _ notes i
  · refine ⟨s, ?_, ?_, rfl, fun c hc => hc⟩
    · simp only [comeBack, exec_bind, exec_contactOf, if_neg hp, exec_pure]
    · rw [Contact.online_of_ne_offline hp]
      funext i
      by_cases hi : i = h
      · rw [hi, contact_withContact]
      · rw [contact_withContact_of_ne _ _ hi]

theorem exec_comeBack_of_not_canSave {s : Newsroom} {h : Handle}
    (hp : (s.contact h).presence = .offline) (hs : ¬ s.CanSave (s.contact h)) :
    ∃ fault t, exec (comeBack h) s = (.error fault, t) ∧
      t.contact = (s.withContact h (s.contact h).online).contact ∧ t.received = s.received := by
  obtain ⟨notes, hset⟩ := exec_setPresence h .online s
  let back := (s.withContact h (s.contact h).online).noting notes
  have hback : back.contact h = (s.contact h).online := contact_withContact s h _
  have hsave : ¬ back.CanSave (back.contact h) := by
    rw [hback]
    exact fun hc => hs (hc.presence (s.contact h).presence)
  obtain ⟨fault, hexec⟩ := exec_save_of_not_canSave hsave
  refine ⟨fault, back, ?_, rfl, ?_⟩
  · simp only [comeBack, exec_bind, exec_contactOf, if_pos hp, hset]
    exact hexec
  · exact funext fun i => received_noting _ notes i

/-! ### Feeds that are gone -/

/-- A contact but for its presence, and the messages that came from it. -/
def standing (h : Handle) (s : Newsroom) : Contact × List Message :=
  ((s.contact h).online, s.received h)

theorem keeps_standing_record {h : Handle} {entry : Entry} (he : entry.received? h = none) :
    Keeps (standing h) (record entry) := by
  intro s
  refine Prod.ext rfl ?_
  show { s with trace := s.trace ++ [entry] }.received h = s.received h
  rw [received_append, List.filterMap_cons_none he, List.filterMap_nil, List.append_nil]

theorem keeps_standing_presence (h i : Handle) (p : Presence) :
    Keeps (standing h) (edit i fun c => { c with presence := p }) := by
  intro s
  refine Prod.ext ?_ rfl
  show ((s.withContact i { s.contact i with presence := p }).contact h).online = _
  by_cases hi : h = i
  · rw [hi, contact_withContact]
    rfl
  · rw [contact_withContact_of_ne _ _ hi]
    rfl

theorem recoveryBound_standing (h i : Handle) :
    RecoveryBound i fun s t => standing h t = standing h s :=
  .of_view (fun _ => keeps_standing_record rfl) (fun _ _ => keeps_standing_record rfl)
    (keeps_standing_presence h i) fun _ _ _ _ => rfl

end Newsroom

end Newswire

import Newswire.Marker
import Newswire.Proofs.Written.Moment

/-!
The written form of markers, read back. A token is read as the text that it shows, a date as it was
written but for an offset of less than a second. Whatever text is read, it stands for no marker only
when it is empty, it is refused for its form, or the marker that it stands for is read back from its
own written form ever after.
-/

namespace Newswire

theorem Moment.ne_incomparable_of_read {text : String} {e : Error} (h : read text = .error e) :
    e ≠ .incomparable := by
  have hoffset (micros : Int) : makeOffset micros ≠ .error .incomparable := by
    unfold makeOffset
    split <;> (intro h; cases h)
  have hdate (year month day : Nat) : makeDate year month day ≠ .error .incomparable := by
    unfold makeDate
    repeat' split
    all_goals
      intro h
      cases h
  have hclock (hour minute second micro : Nat) :
      makeClock hour minute second micro ≠ .error .incomparable := by
    unfold makeClock
    repeat' split
    all_goals
      intro h
      cases h
  rintro rfl
  unfold read at h
  split at h
  · cases h
  · next micros _ =>
    rcases bind_eq_error.mp h with h | ⟨offset, _, h⟩
    · cases micros with
      | none => cases h
      | some micros =>
        obtain hmicros | ⟨_, _, h⟩ := bind_eq_error.mp
          (show (makeOffset micros >>= fun o => pure (some o)) = .error .incomparable from h)
        · exact hoffset micros hmicros
        · cases h
    · rcases bind_eq_error.mp h with h | ⟨date, _, h⟩
      · exact hdate _ _ _ h
      · rcases bind_eq_error.mp h with h | ⟨clock, _, h⟩
        · exact hclock _ _ _ _ h
        · cases h

namespace Marker

/-- What is read of the written form of a marker. -/
def asRead : Marker → Marker
  | .date d => .date d.asRead
  | .token t => .token (.text t.shown)

/-- The marker is read back as it was written. -/
def Lasting : Marker → Prop
  | .date d => d.Legible
  | .token t => ∃ text, t = .text text

theorem Lasting.asRead_eq {m : Marker} (h : m.Lasting) : m.asRead = m := by
  cases m with
  | date d =>
    have hd : d.Legible := h
    rw [asRead, hd.asRead_eq]
  | token t =>
    obtain ⟨text, rfl⟩ := h
    rfl

/-! ### Stored forms -/

theorem read_eq_of_kind {kind : List Char} (hkind : kind.all (· != ':') = true)
    (rest : List Char) : read (some (String.ofList (kind ++ ':' :: rest))) =
      if kind = "date".toList then
        ((Moment.read (String.ofList rest)).mapError .moment).map (some ∘ .date)
      else if kind = "token".toList then .ok (some (.token (.text (String.ofList rest))))
      else .error (.unknownMarker (String.ofList (kind ++ ':' :: rest))) := by
  have hkind := List.all_eq_true.mp hkind
  have htake : (kind ++ ':' :: rest).takeWhile (· != ':') = kind := by
    rw [List.takeWhile_append_of_pos hkind, List.takeWhile_cons_of_neg (by decide), List.append_nil]
  have hdrop : ((kind ++ ':' :: rest).dropWhile (· != ':')).drop 1 = rest := by
    rw [List.dropWhile_append_of_pos hkind, List.dropWhile_cons_of_neg (by decide)]
    rfl
  unfold read
  rw [Option.map_some, String.toList_ofList]
  split
  · next h => cases h
  · next h => exact absurd (Option.some.inj h) (List.append_ne_nil_of_right_ne_nil _ (by simp))
  · next h =>
    cases h
    simp only [htake, hdrop]

theorem text_date (d : Moment) :
    text (.date d) = String.ofList ("date".toList ++ ':' :: d.iso.toList) := by
  rw [text, ← String.ofList_toList (s := "date:" ++ d.iso), String.toList_append]
  rfl

theorem text_token (t : Value) :
    text (.token t) = String.ofList ("token".toList ++ ':' :: t.shown.toList) := by
  rw [text, ← String.ofList_toList (s := "token:" ++ t.shown), String.toList_append]
  rfl

/-- Every written marker can be read. -/
theorem read_text_eq_asRead (m : Marker) : read (some m.text) = .ok (some m.asRead) := by
  cases m with
  | date d =>
    rw [text_date, read_eq_of_kind rfl, if_pos rfl, String.ofList_toList,
      Moment.read_iso_eq_asRead]
    rfl
  | token t =>
    rw [text_token, read_eq_of_kind rfl, if_neg (by decide), if_pos rfl,
      String.ofList_toList]
    rfl

theorem read_text_iff {m : Marker} : read (some m.text) = .ok (some m) ↔ m.Lasting := by
  rw [read_text_eq_asRead]
  constructor
  · intro h
    have hsame : m.asRead = m := Option.some.inj (Except.ok.inj h)
    cases m with
    | date d => exact Moment.asRead_eq_iff.mp (Marker.date.inj hsame)
    | token t => exact ⟨t.shown, (Marker.token.inj hsame).symm⟩
  · intro h
    rw [h.asRead_eq]

/-! ### Any text -/

variable {stored : String}

theorem read_cases (stored : String) :
    (stored = "" ∧ read (some stored) = .ok none) ∨
      (∃ rest e, Moment.read rest = .error e ∧ read (some stored) = .error (.moment e)) ∨
      (∃ rest d, Moment.read rest = .ok d ∧ read (some stored) = .ok (some (.date d))) ∨
      (∃ t, read (some stored) = .ok (some (.token (.text t)))) ∨
      read (some stored) = .error (.unknownMarker stored) := by
  unfold read
  rw [Option.map_some]
  split
  · next h => cases h
  · next h => exact .inl ⟨String.toList_eq_nil_iff.mp (Option.some.inj h), rfl⟩
  · next cs _ h =>
    obtain rfl : stored.toList = cs := Option.some.inj h
    dsimp only
    split
    · cases hread : Moment.read (String.ofList ((stored.toList.dropWhile (· != ':')).drop 1)) with
      | error e => exact .inr (.inl ⟨_, e, hread, rfl⟩)
      | ok d => exact .inr (.inr (.inl ⟨_, d, hread, rfl⟩))
    · split
      · exact .inr (.inr (.inr (.inl ⟨_, rfl⟩)))
      · rw [String.ofList_toList]
        exact .inr (.inr (.inr (.inr rfl)))

theorem read_eq_none_iff : read (some stored) = .ok none ↔ stored = "" := by
  constructor
  · intro h
    obtain ⟨hempty, _⟩ | ⟨_, _, _, hread⟩ | ⟨_, _, _, hread⟩ | ⟨_, hread⟩ | hread :=
      read_cases stored
    · exact hempty
    all_goals
      rw [hread] at h
      cases h
  · rintro rfl
    rfl

/-- What a text is refused for that is read as a marker: it begins with no known word, or what
follows is no moment. -/
def Refused (stored : String) : Fault → Prop
  | .unknownMarker text => text = stored
  | .moment cause => cause ≠ .incomparable
  | _ => False

theorem refused_of_read {fault : Fault} (h : read (some stored) = .error fault) :
    Refused stored fault := by
  obtain ⟨_, hread⟩ | ⟨_, e, he, hread⟩ | ⟨_, _, _, hread⟩ | ⟨_, hread⟩ | hread :=
    read_cases stored
  all_goals
    rw [hread] at h
    cases h
  · exact Moment.ne_incomparable_of_read he
  · rfl

theorem lasting_of_read {stored : Option String} {m : Marker} (h : read stored = .ok (some m)) :
    m.Lasting := by
  cases stored with
  | none => cases h
  | some stored =>
    obtain ⟨_, hread⟩ | ⟨_, _, _, hread⟩ | ⟨_, d, hd, hread⟩ | ⟨t, hread⟩ | hread :=
      read_cases stored
    all_goals
      rw [hread] at h
      cases h
    · exact Moment.legible_of_read hd
    · exact ⟨t, rfl⟩

/-- A token is read back as it was written, whatever text it is, and so is a date that does not know
its offset or has one of whole seconds. And a text stands for no marker only when it is empty, or it
is refused for its form, or it stands for a marker that is read back as it is written. -/
theorem read_back_as_written :
    (∀ t : String, read (some (text (.token (.text t)))) = .ok (some (.token (.text t)))) ∧
      (∀ d : Moment, (∀ o, d.offset = some o → 1000000 ∣ o.micros) →
        read (some (text (.date d))) = .ok (some (.date d))) ∧
      ∀ stored : String, (read (some stored) = .ok none ↔ stored = "") ∧
        (∀ fault, read (some stored) = .error fault → Refused stored fault) ∧
        ∀ m, read (some stored) = .ok (some m) → read (some m.text) = .ok (some m) := by
  refine ⟨fun t => ?_, fun d hd => ?_, fun stored => ⟨read_eq_none_iff, ?_, ?_⟩⟩
  · exact read_text_iff.mpr ⟨t, rfl⟩
  · have hlegible : d.Legible := fun o ho => Offset.legible_of_dvd (hd o ho)
    exact read_text_iff.mpr hlegible
  · intro fault hfault
    exact refused_of_read hfault
  · intro m hm
    exact read_text_iff.mpr (lasting_of_read hm)

/-- A date with an offset of a second less than nothing, and a token that looks like a date. -/
theorem reads_back_second_and_word :
    let d : Moment := ⟨⟨1, 1, 1, by decide⟩, ⟨0, 0, 0, 1, by decide⟩, some ⟨-1000000, by decide⟩⟩
    read (some "date:0001-01-01T00:00:00.000001-00:00:01") = .ok (some (.date d)) ∧
      read (some "token:date:") = .ok (some (.token (.text "date:"))) := by
  intro d
  have hd : ∀ o, d.offset = some o → 1000000 ∣ o.micros := by
    intro o ho
    cases ho
    decide
  have htext : text (.date d) = "date:0001-01-01T00:00:00.000001-00:00:01" := by decide +kernel
  obtain ⟨htoken, hdate, _⟩ := read_back_as_written
  refine ⟨?_, htoken "date:"⟩
  rw [← htext]
  exact hdate d hd

end Marker

end Newswire

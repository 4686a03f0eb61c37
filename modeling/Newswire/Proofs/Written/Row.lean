import Newswire.Proofs.Written.Marker
import Newswire.Store

/-!
The rows of contacts, read back. A row into which name, presence and marker of a contact are written
reads as before but for these three, the marker as far as it lasts.
-/

namespace Newswire

namespace Row

/-- The time that a row gives, the present one if it gives none. -/
def createdAt (row : Row) (now : Moment) : Except Fault Moment :=
  if row.created.isEmpty then pure now else (Moment.read row.created).mapError .moment

theorem createdAt_of_iso {row : Row} {created : Moment} (h : row.created = created.iso)
    (now : Moment) : row.createdAt now = .ok created.asRead := by
  rw [createdAt, h, Moment.isEmpty_iso, Moment.read_iso_eq_asRead]
  rfl

theorem contact_eq_ok_iff {row : Row} {now : Moment} {c : Contact} :
    row.contact now = .ok c ↔ ∃ presence marker created,
      Presence.ofWord row.presence = .ok presence ∧ Marker.read row.marker = .ok marker ∧
      row.createdAt now = .ok created ∧
      c = ⟨some row.address, .text row.name, presence, marker, row.persistent, some created,
        some row.id⟩ := by
  have hchain : row.contact now = (do
      let presence ← Presence.ofWord row.presence
      let marker ← Marker.read row.marker
      let created ← row.createdAt now
      pure ⟨some row.address, .text row.name, presence, marker, row.persistent, some created,
        some row.id⟩) := by
    unfold contact createdAt
    refine bind_congr fun presence => bind_congr fun marker => ?_
    split <;> rfl
  rw [hchain]
  constructor
  · intro h
    obtain ⟨presence, hpresence, h⟩ := bind_eq_ok.mp h
    obtain ⟨marker, hmarker, h⟩ := bind_eq_ok.mp h
    obtain ⟨created, hcreated, h⟩ := bind_eq_ok.mp h
    cases h
    exact ⟨presence, marker, created, hpresence, hmarker, hcreated, rfl⟩
  · rintro ⟨presence, marker, created, hpresence, hmarker, hcreated, rfl⟩
    exact bind_eq_ok.mpr ⟨presence, hpresence, bind_eq_ok.mpr ⟨marker, hmarker,
      bind_eq_ok.mpr ⟨created, hcreated, rfl⟩⟩⟩

theorem contact_at {row : Row} {now later : Moment} {c d : Contact} (h : row.contact now = .ok c)
    (h' : row.contact later = .ok d) : d = { c with created := d.created } := by
  obtain ⟨_, _, _, hpresence, hmarker, _, rfl⟩ := contact_eq_ok_iff.mp h
  obtain ⟨_, _, _, hpresence', hmarker', _, rfl⟩ := contact_eq_ok_iff.mp h'
  obtain rfl := Except.ok.inj (hpresence.symm.trans hpresence')
  obtain rfl := Except.ok.inj (hmarker.symm.trans hmarker')
  rfl

/-- The row with name, presence and marker of a contact written into it. -/
def written (row : Row) (name : String) (c : Contact) : Row :=
  { row with name := name, presence := c.presence.word, marker := c.marker.map Marker.text }

theorem read_map_text (marker : Option Marker) :
    Marker.read (marker.map Marker.text) = .ok (marker.map Marker.asRead) := by
  cases marker with
  | none => rfl
  | some m => exact Marker.read_text_eq_asRead m

theorem contact_written {row : Row} {now : Moment} {d : Contact} (h : row.contact now = .ok d)
    (name : String) (c : Contact) :
    (row.written name c).contact now = .ok { d with
      name := .text name, presence := c.presence, marker := c.marker.map Marker.asRead } := by
  obtain ⟨_, _, created, _, _, hcreated, rfl⟩ := contact_eq_ok_iff.mp h
  exact contact_eq_ok_iff.mpr ⟨c.presence, _, created, Presence.ofWord_word _,
    read_map_text c.marker, hcreated, rfl⟩

def Readable (row : Row) : Prop :=
  ∃ now c, row.contact now = .ok c

theorem Readable.exists_contact {row : Row} (h : row.Readable) (now : Moment) :
    ∃ c, row.contact now = .ok c := by
  obtain ⟨past, c, hc⟩ := h
  obtain ⟨presence, marker, created, hpresence, hmarker, hcreated, _⟩ := contact_eq_ok_iff.mp hc
  have hnow : ∃ created, row.createdAt now = .ok created := by
    unfold createdAt at hcreated ⊢
    split
    · exact ⟨now, rfl⟩
    · next hempty =>
      rw [if_neg hempty] at hcreated
      exact ⟨created, hcreated⟩
  obtain ⟨created, hcreated⟩ := hnow
  exact ⟨_, contact_eq_ok_iff.mpr ⟨presence, marker, created, hpresence, hmarker, hcreated, rfl⟩⟩

theorem Readable.written {row : Row} (h : row.Readable) (name : String) (c : Contact) :
    (row.written name c).Readable := by
  obtain ⟨now, d, hd⟩ := h
  exact ⟨now, _, contact_written hd name c⟩

end Row

end Newswire

import Mathlib.Data.List.Forall2
import Mathlib.Data.List.Nodup
import Newswire.Proofs.Saving
import Newswire.Proofs.Written.Row

/-!
The table of contacts, address by address. A write for a contact is a matter of the rows of its
address alone: what becomes of it is told by them, and it leaves all other rows as they are. A table
that holds each address once, and whose rows can be read, stays so whatever is written.
-/

namespace Newswire

theorem textCell_eq_ok {s t : String} (h : textCell s = .ok t) : t = s := by
  unfold textCell at h
  split at h
  · cases h
    rfl
  · cases h

theorem mapM_textCell_eq_ok {s t : Option String} (h : s.mapM textCell = .ok t) : t = s := by
  cases s with
  | none =>
    cases h
    rfl
  | some s =>
    obtain ⟨u, hu, h⟩ := bind_eq_ok.mp (show (textCell s >>= fun u => pure (some u)) = .ok t from h)
    cases h
    rw [textCell_eq_ok hu]

theorem mapM_textCell_of_forall {s : Option String} (h : ∀ t, s = some t → textCell t = .ok t) :
    s.mapM textCell = .ok s := by
  cases s with
  | none => rfl
  | some t =>
    show (textCell t >>= fun u => pure (some u)) = _
    rw [h t rfl]
    rfl

theorem Value.eq_of_cell_text {s t : String} {position : Nat}
    (h : (Value.text s).cell position = .ok (some t)) : t = s := by
  cases hcell : textCell s with
  | error fault =>
    simp only [Value.cell, hcell, Except.map] at h
    cases h
  | ok own =>
    simp only [Value.cell, hcell, Except.map] at h
    cases h
    exact textCell_eq_ok hcell

theorem filled_eq_ok {α : Type} {rule : Constraint} {cell : Option α} {a : α} :
    filled rule cell = .ok a ↔ cell = some a := by
  cases cell with
  | none => exact ⟨(nomatch ·), (nomatch ·)⟩
  | some b => exact ⟨fun h => congrArg some (Except.ok.inj h), fun h => by cases h; rfl⟩

namespace Store

variable {s t : Store} {c : Contact} {address : Option String}

/-! ### The rows of an address -/

/-- What the store holds of an address. -/
def only (s : Store) (address : Option String) : Store where
  rows := s.rows.filter fun row => some row.address == address
  lastId := 0
  isOpen := s.isOpen

theorem mem_rows_only {row : Row} :
    row ∈ (s.only address).rows ↔ row ∈ s.rows ∧ some row.address = address := by
  rw [only, List.mem_filter, beq_iff_eq]

/-- A row, with name, presence and marker of a contact written into it if it has its address. -/
def writing (name : String) (c : Contact) (row : Row) : Row :=
  if some row.address == c.address then row.written name c else row

@[simp]
theorem address_writing (name : String) (c : Contact) (row : Row) :
    (writing name c row).address = row.address := by
  unfold writing
  split <;> rfl

theorem holds_only (s : Store) (address : Option String) :
    (s.only address).holds address = s.holds address := by
  simp only [holds, only, List.any_filter, Bool.and_self]

theorem holds_iff : s.holds address = true ↔ ∃ row ∈ s.rows, some row.address = address := by
  simp only [holds, List.any_eq_true, beq_iff_eq]

theorem rows_only_ne_nil_iff : (s.only address).rows ≠ [] ↔ s.holds address = true := by
  rw [holds_iff, ne_eq, List.eq_nil_iff_forall_not_mem, not_forall_not]
  exact exists_congr fun row => mem_rows_only

/-! ### Writing -/

theorem map_writing_of_not_holds (h : ¬ s.holds c.address = true) (name : String) :
    s.rows.map (writing name c) = s.rows := by
  refine (List.map_congr_left fun row hrow => ?_).trans (List.map_id _)
  have hne : ¬ (some row.address == c.address) = true := fun heq =>
    h (List.any_eq_true.mpr ⟨row, hrow, heq⟩)
  rw [writing, if_neg hne]
  rfl

theorem eq_of_update (h : s.update c = .ok t) :
    ∃ name, t = { s with rows := s.rows.map (writing name c) } ∧
      (s.holds c.address → c.name.cell 1 = .ok (some name)) := by
  obtain ⟨_, _, h⟩ := bind_eq_ok.mp h
  obtain ⟨name, hname, h⟩ := bind_eq_ok.mp h
  obtain ⟨marker, hmarker, h⟩ := bind_eq_ok.mp h
  obtain ⟨_, _, h⟩ := bind_eq_ok.mp h
  have hmarker := mapM_textCell_eq_ok hmarker
  subst hmarker
  split at h
  · next hholds =>
    obtain ⟨text, htext, h⟩ := bind_eq_ok.mp h
    cases name with
    | none => cases htext
    | some name =>
      cases htext
      cases h
      exact ⟨text, rfl, fun _ => hname⟩
  · next hholds =>
    cases h
    exact ⟨"", by rw [map_writing_of_not_holds hholds], fun hh => absurd hh hholds⟩

/-- A write is told by what the store holds of the address, and so is what becomes of that. -/
theorem update_only (s : Store) (c : Contact) :
    (s.only c.address).update c = (s.update c).map (·.only c.address) := by
  have hopen : (s.only c.address).checkOpen = s.checkOpen := rfl
  have hrows (write : Row → Row) (hwrite : ∀ row, (write row).address = row.address) :
      (s.rows.filter fun row => some row.address == c.address).map write
        = (s.rows.map write).filter fun row => some row.address == c.address := by
    rw [List.filter_map]
    refine congrArg (List.map write) (List.filter_congr fun row _ => ?_)
    rw [Function.comp_apply, hwrite]
  unfold update
  rw [hopen, holds_only]
  cases s.checkOpen with
  | error fault => rfl
  | ok _ =>
    simp only [bind, Except.bind]
    cases c.name.cell 1 with
    | error fault => rfl
    | ok name =>
      cases (c.marker.map Marker.text).mapM textCell with
      | error fault => rfl
      | ok marker =>
        cases c.address.mapM textCell with
        | error fault => rfl
        | ok _ =>
          simp only
          split
          · cases filled .missingName name with
            | error fault => rfl
            | ok text =>
              simp only [pure, Except.pure, Except.map, only]
              rw [hrows _ fun row => by split <;> rfl]
          · rfl

theorem only_of_update (h : s.update c = .ok t) (hne : address ≠ c.address) :
    t.only address = s.only address := by
  obtain ⟨name, rfl, _⟩ := eq_of_update h
  have hrows : (s.rows.map (writing name c)).filter (fun row => some row.address == address)
      = s.rows.filter fun row => some row.address == address := by
    rw [List.filter_map]
    have hsame : ∀ row ∈ s.rows.filter ((fun row => some row.address == address) ∘ writing name c),
        writing name c row = row := by
      intro row hrow
      have heq := (List.mem_filter.mp hrow).2
      simp only [Function.comp_apply, address_writing, beq_iff_eq] at heq
      have hother : ¬ (some row.address == c.address) = true := by
        rw [beq_iff_eq, heq]
        exact hne
      rw [writing, if_neg hother]
    rw [List.map_congr_left hsame, List.map_id'']
    · exact List.filter_congr fun row _ => by rw [Function.comp_apply, address_writing]
    · exact fun _ => rfl
  rw [only, only, hrows]

/-! ### Removing -/

theorem eq_of_delete {found : Bool} (h : s.delete address = .ok (found, t)) :
    t = { s with rows := s.rows.filter fun row => some row.address != address } := by
  obtain ⟨_, _, h⟩ := bind_eq_ok.mp h
  obtain ⟨_, _, h⟩ := bind_eq_ok.mp h
  cases h
  rfl

theorem delete_only (s : Store) (address : Option String) :
    (s.only address).delete address
      = (s.delete address).map fun p => (p.1, p.2.only address) := by
  have hopen : (s.only address).checkOpen = s.checkOpen := rfl
  unfold delete
  rw [hopen, holds_only]
  cases s.checkOpen with
  | error fault => rfl
  | ok _ =>
    simp only [bind, Except.bind]
    cases address.mapM textCell with
    | error fault => rfl
    | ok _ =>
      simp only [pure, Except.pure, Except.map, only, List.filter_filter, Bool.and_comm]

theorem only_of_delete {found : Bool} {other : Option String}
    (h : s.delete other = .ok (found, t)) (hne : address ≠ other) :
    t.only address = s.only address := by
  rw [eq_of_delete h, only, only, List.filter_filter]
  refine congrArg (Store.mk · 0 s.isOpen) (List.filter_congr fun row _ => ?_)
  by_cases heq : some row.address = address
  · have hother : (some row.address != other) = true := by
      rw [bne_iff_ne, heq]
      exact hne
    rw [hother, Bool.and_true]
  · rw [beq_eq_false_iff_ne.mpr heq, Bool.false_and]

/-! ### Adding -/

/-- The row of a contact that has these texts for its address and its name. -/
def rowOf (id : Nat) (address name : String) (created : Moment) (c : Contact) : Row :=
  ⟨id, address, name, c.presence.word, c.marker.map Marker.text, c.persistent, created.iso⟩

theorem contact_rowOf (id : Nat) (address name : String) (created : Moment) (c : Contact)
    (now : Moment) : (rowOf id address name created c).contact now
      = .ok ⟨some address, .text name, c.presence, c.marker.map Marker.asRead, c.persistent,
        some created.asRead, some id⟩ := by
  have hpresence : Presence.ofWord (rowOf id address name created c).presence = .ok c.presence :=
    Presence.ofWord_word _
  have hmarker : Marker.read (rowOf id address name created c).marker
      = .ok (c.marker.map Marker.asRead) := Row.read_map_text _
  have hiso : (rowOf id address name created c).created = created.iso := rfl
  have hcreated := Row.createdAt_of_iso hiso now
  rw [Row.contact_eq_ok_iff]
  exact ⟨_, _, _, hpresence, hmarker, hcreated, by simp only [rowOf]⟩

theorem readable_rowOf (id : Nat) (address name : String) (created : Moment) (c : Contact) :
    (rowOf id address name created c).Readable :=
  ⟨created, _, contact_rowOf ..⟩

theorem ofContact_eq_ok {id : Nat} {row : Row} (h : Row.ofContact c id = .ok row) :
    ∃ address name created, c.address = some address ∧ textCell address = .ok address ∧
      c.name.cell 2 = .ok (some name) ∧ c.created = some created ∧
      row = rowOf id address name created c := by
  obtain ⟨address, haddress, h⟩ := bind_eq_ok.mp h
  obtain ⟨name, hname, h⟩ := bind_eq_ok.mp h
  obtain ⟨marker, hmarker, h⟩ := bind_eq_ok.mp h
  obtain ⟨own, hown, h⟩ := bind_eq_ok.mp h
  obtain ⟨shown, hshown, h⟩ := bind_eq_ok.mp h
  obtain ⟨time, htime, h⟩ := bind_eq_ok.mp h
  obtain rfl := mapM_textCell_eq_ok hmarker
  obtain rfl := mapM_textCell_eq_ok haddress
  have hown := filled_eq_ok.mp hown
  obtain ⟨created, hcreated, rfl⟩ := Option.map_eq_some_iff.mp (filled_eq_ok.mp htime)
  rw [hown] at haddress
  obtain ⟨_, htext, _⟩ := bind_eq_ok.mp haddress
  rw [filled_eq_ok.mp hshown] at hname
  exact ⟨own, shown, created, hown, textCell_eq_ok htext ▸ htext, hname, hcreated,
    (Except.ok.inj h).symm⟩

theorem add_eq_ok {d : Contact} (h : s.add c = .ok (d, t)) :
    ∃ address name created, c.address = some address ∧ textCell address = .ok address ∧
      c.name.cell 2 = .ok (some name) ∧ c.created = some created ∧ s.isOpen = true ∧
      s.holds c.address = false ∧ d = { c with id := some (s.lastId + 1) } ∧
      t = { s with
        rows := s.rows ++ [rowOf (s.lastId + 1) address name created c]
        lastId := s.lastId + 1 } := by
  unfold add at h
  split at h
  · next t' hinsert =>
    obtain ⟨_, hopen, hinsert⟩ := bind_eq_ok.mp hinsert
    obtain ⟨row, hrow, hinsert⟩ := bind_eq_ok.mp hinsert
    obtain ⟨_, _, hinsert⟩ := bind_eq_ok.mp hinsert
    obtain ⟨address, name, created, haddress, htext, hname, hcreated, rfl⟩ := ofContact_eq_ok hrow
    cases h
    split at hinsert
    · cases hinsert
    · next hheld =>
      obtain rfl := Except.ok.inj hinsert
      exact ⟨address, name, created, haddress, htext, hname, hcreated, checkOpen_eq_ok.mp hopen,
        by rw [haddress]; exact Bool.eq_false_iff.mpr hheld, rfl, rfl⟩
  · cases h
  · cases h

/-! ### Sound tables -/

/-- The table holds each address once, and its rows can be read. -/
structure Sound (s : Store) : Prop where
  unique : (s.rows.map Row.address).Nodup
  readable : ∀ row ∈ s.rows, row.Readable

theorem Sound.update (hs : s.Sound) (h : s.update c = .ok t) : t.Sound := by
  obtain ⟨name, rfl, _⟩ := eq_of_update h
  constructor
  · rw [List.map_map]
    have hsame : Row.address ∘ writing name c = Row.address := funext fun row => address_writing ..
    rw [hsame]
    exact hs.unique
  · intro row hrow
    obtain ⟨old, hold, rfl⟩ := List.mem_map.mp hrow
    unfold writing
    split
    · exact (hs.readable old hold).written name c
    · exact hs.readable old hold

theorem Sound.delete {found : Bool} (hs : s.Sound) (h : s.delete address = .ok (found, t)) :
    t.Sound := by
  rw [eq_of_delete h]
  exact ⟨hs.unique.sublist (List.filter_sublist.map _),
    fun row hrow => hs.readable row (List.mem_filter.mp hrow).1⟩

theorem Sound.add {d : Contact} (hs : s.Sound) (h : s.add c = .ok (d, t)) : t.Sound := by
  obtain ⟨address, name, created, haddress, _, _, _, _, hheld, _, rfl⟩ := add_eq_ok h
  constructor
  · rw [List.map_append, List.nodup_append]
    refine ⟨hs.unique, List.pairwise_singleton .., fun a ha b hb heq => ?_⟩
    obtain ⟨row, hrow, rfl⟩ := List.mem_map.mp ha
    rw [haddress, Bool.eq_false_iff, ne_eq, holds_iff] at hheld
    rw [List.map_singleton, List.mem_singleton] at hb
    exact hheld ⟨row, hrow, congrArg some (heq.trans hb)⟩
  · intro row hrow
    rcases List.mem_append.mp hrow with hrow | hrow
    · exact hs.readable row hrow
    · rw [List.mem_singleton.mp hrow]
      exact readable_rowOf ..

theorem all_eq_ok_iff {now : Moment} {cs : List Contact} :
    s.all now = .ok cs ↔
      s.isOpen = true ∧ List.Forall₂ (fun row c => row.contact now = .ok c) s.rows cs := by
  have hrows (rows : List Row) : rows.mapM (·.contact now) = .ok cs ↔
      List.Forall₂ (fun row c => row.contact now = .ok c) rows cs := by
    induction rows generalizing cs with
    | nil =>
      rw [List.mapM_nil, List.forall₂_nil_left_iff]
      exact ⟨fun h => by cases h; rfl, fun h => by rw [h]; rfl⟩
    | cons row rest ih =>
      rw [List.mapM_cons]
      simp only [bind_eq_ok]
      constructor
      · rintro ⟨c, hc, others, hothers, heq⟩
        cases heq
        exact .cons hc (ih.mp hothers)
      · rintro (_ | ⟨hc, hothers⟩)
        exact ⟨_, hc, _, ih.mpr hothers, rfl⟩
  unfold all
  rw [bind_eq_ok]
  simp only [checkOpen_eq_ok, hrows, exists_and_left]
  exact ⟨fun ⟨hopen, _, h⟩ => ⟨hopen, h⟩, fun ⟨hopen, h⟩ => ⟨hopen, (), h⟩⟩

theorem addresses_of_all {now : Moment} {cs : List Contact} (h : s.all now = .ok cs) :
    cs.map Contact.address = s.rows.map fun row => some row.address := by
  obtain ⟨_, hrows⟩ := all_eq_ok_iff.mp h
  clear h
  generalize s.rows = rows at hrows
  induction hrows with
  | nil => rfl
  | cons hc _ ih =>
    obtain ⟨_, _, _, _, _, _, rfl⟩ := Row.contact_eq_ok_iff.mp hc
    rw [List.map_cons, List.map_cons, ih]

theorem nodup_addresses_of_all {now : Moment} {cs : List Contact}
    (hs : (s.rows.map Row.address).Nodup) (h : s.all now = .ok cs) :
    (cs.map Contact.address).Nodup := by
  rw [addresses_of_all h]
  have hrows := hs.map fun _ _ => Option.some.inj
  rwa [List.map_map] at hrows

theorem exists_mem_of_all {now : Moment} {cs : List Contact} (h : s.all now = .ok cs) {row : Row}
    (hrow : row ∈ s.rows) : ∃ c ∈ cs, row.contact now = .ok c := by
  obtain ⟨_, hrows⟩ := all_eq_ok_iff.mp h
  obtain ⟨i, hi, rfl⟩ := List.getElem_of_mem hrow
  have hlt : i < cs.length := hrows.length_eq ▸ hi
  exact ⟨cs[i], List.getElem_mem hlt, hrows.get hi hlt⟩

theorem exists_row_of_all {now : Moment} {cs : List Contact} (h : s.all now = .ok cs)
    (hc : c ∈ cs) : ∃ row ∈ s.rows, row.contact now = .ok c := by
  obtain ⟨_, hrows⟩ := all_eq_ok_iff.mp h
  obtain ⟨i, hi, rfl⟩ := List.getElem_of_mem hc
  have hlt : i < s.rows.length := hrows.length_eq ▸ hi
  exact ⟨s.rows[i], List.getElem_mem hlt, hrows.get hlt hi⟩

theorem Sound.exists_all (hs : s.Sound) (hopen : s.isOpen = true) (now : Moment) :
    ∃ cs, s.all now = .ok cs := by
  have hread : ∀ rows : List Row, (∀ row ∈ rows, row.Readable) →
      ∃ cs, List.Forall₂ (fun row c => row.contact now = .ok c) rows cs := by
    intro rows
    induction rows with
    | nil => exact fun _ => ⟨[], .nil⟩
    | cons row rest ih =>
      intro h
      obtain ⟨c, hc⟩ := (h row (List.mem_cons_self ..)).exists_contact now
      obtain ⟨cs, hcs⟩ := ih fun r hr => h r (List.mem_cons_of_mem _ hr)
      exact ⟨c :: cs, .cons hc hcs⟩
  obtain ⟨cs, hcs⟩ := hread s.rows hs.readable
  exact ⟨cs, all_eq_ok_iff.mpr ⟨hopen, hcs⟩⟩

theorem Sound.only_eq (hs : s.Sound) {row : Row} (hrow : row ∈ s.rows) :
    s.only (some row.address) = ⟨[row], 0, s.isOpen⟩ := by
  have hfilter : ∀ rows : List Row, (rows.map Row.address).Nodup → row ∈ rows →
      rows.filter (fun r => some r.address == some row.address) = [row] := by
    intro rows
    induction rows with
    | nil => exact fun _ h => nomatch h
    | cons first rest ih =>
      intro hnodup hmem
      obtain ⟨hfirst, hrest⟩ := List.nodup_cons.mp hnodup
      rcases List.mem_cons.mp hmem with rfl | hmem
      · have hothers : rest.filter (fun r => some r.address == some row.address) = [] := by
          refine List.filter_eq_nil_iff.mpr fun r hr heq => hfirst ?_
          rw [beq_iff_eq, Option.some.injEq] at heq
          exact heq ▸ List.mem_map_of_mem hr
        rw [List.filter_cons, if_pos (beq_self_eq_true _), hothers]
      · have hne : ¬ (some first.address == some row.address) = true := by
          rw [beq_iff_eq, Option.some.injEq]
          exact fun heq => hfirst (heq ▸ List.mem_map_of_mem hmem)
        rw [List.filter_cons, if_neg hne, ih hrest hmem]
  rw [only, hfilter s.rows hs.unique hrow]

end Store

end Newswire

import Newswire.Feed.Html

/-!
The body of a message. Each item is shown by lines of its own, which depend on no other item; the
body is these lines, the oldest item first, and it can be written when each item can be shown by
itself. A body about items begins with a bold title, so it is never the one that tells of none.
-/

namespace Newswire

/-- The text that a value is, if it is one. -/
def Value.text? : Value → Option String
  | .text s => some s
  | _ => none

theorem Value.asText_eq_ok_iff {v : Value} {member s : String} :
    v.asText member = .ok s ↔ v = .text s := by
  constructor
  · intro h
    unfold asText at h
    cases v with
    | text own => rw [Except.ok.inj h]
    | record fields =>
      dsimp only at h
      split at h
      · cases h
      · cases h
    | _ => cases h
  · rintro rfl
    rfl

/-- The item can be shown by itself. -/
def Item.Renders (item : Item) : Prop :=
  ∃ body, Html.body [item] = .ok body

/-- An item that says nothing but its name. -/
def Item.bare (name : String) : Item :=
  ⟨some (.text name), some (.text name), none, none, some none⟩

theorem Item.renders_bare (name : String) : (Item.bare name).Renders :=
  ⟨_, rfl⟩

namespace Html

/-! ### The lines of an item -/

def lines (item : Item) : List String :=
  match itemParts item with
  | .ok parts => parts.filterMap Value.text?
  | .error _ => []

theorem texts_eq_ok_iff {position : Nat} {parts : List Value} {ls : List String} :
    texts position parts = .ok ls ↔ parts = ls.map Value.text := by
  induction parts generalizing position ls with
  | nil =>
    constructor
    · intro h
      cases h
      rfl
    · intro h
      rw [List.map_eq_nil_iff.mp h.symm]
      rfl
  | cons v rest ih =>
    constructor
    · intro h
      cases v with
      | text s =>
        rw [texts] at h
        cases hrest : texts (position + 1) rest with
        | error fault =>
          rw [hrest] at h
          cases h
        | ok ls' =>
          rw [hrest] at h
          cases h
          rw [List.map_cons, ← ih.mp hrest]
      | _ => cases h
    · intro h
      cases ls with
      | nil => cases h
      | cons l ls' =>
        rw [List.map_cons, List.cons.injEq] at h
        obtain ⟨rfl, hrest⟩ := h
        rw [texts, ih.mpr hrest]
        rfl

theorem filterMap_text? (ls : List String) : (ls.map Value.text).filterMap Value.text? = ls := by
  rw [List.filterMap_map]
  exact List.filterMap_some

theorem allParts_singleton (item : Item) : allParts [item] = itemParts item := by
  cases h : itemParts item with
  | error fault => simp only [allParts, h, bind, Except.bind]
  | ok parts =>
    simp only [allParts, h, bind, Except.bind, pure, Except.pure, List.append_nil]

theorem renders_of_itemParts {item : Item} (ls : List String)
    (h : itemParts item = .ok (ls.map Value.text)) : item.Renders := by
  refine ⟨lineBreak.intercalate ls, ?_⟩
  show (do
    let parts ← allParts [item]
    return lineBreak.intercalate (← texts 0 parts)) = _
  rw [allParts_singleton, h]
  simp only [bind, Except.bind, texts_eq_ok_iff.mpr rfl]
  rfl

theorem renders_iff {item : Item} :
    item.Renders ↔ itemParts item = .ok ((lines item).map Value.text) := by
  have hbody : body [item] = (do
      let parts ← itemParts item
      return lineBreak.intercalate (← texts 0 parts)) := by
    rw [← allParts_singleton]
    rfl
  constructor
  · rintro ⟨text, h⟩
    rw [hbody] at h
    obtain ⟨parts, hparts, h⟩ := bind_eq_ok.mp h
    obtain ⟨ls, hls, _⟩ := bind_eq_ok.mp h
    rw [lines, hparts, texts_eq_ok_iff.mp hls]
    simp only [filterMap_text?]
  · exact renders_of_itemParts _

theorem exists_lines_eq {item : Item} (h : item.Renders) :
    ∃ title rest, lines item = ("<b>" ++ title ++ "</b>") :: rest := by
  have hparts := renders_iff.mp h
  rw [itemParts] at hparts
  obtain ⟨title, _, hrest⟩ := bind_eq_ok.mp hparts
  cases hlines : lines item with
  | nil =>
    rw [hlines] at hrest
    cases hrest
  | cons l ls =>
    rw [hlines] at hrest
    simp only [pure, Except.pure, Except.ok.injEq, List.cons_append, List.map_cons, List.cons.injEq,
      Value.text.injEq] at hrest
    exact ⟨title, ls, by rw [hrest.1]⟩

/-! ### The body -/

theorem allParts_of_renders {items : List Item} (h : ∀ item ∈ items, item.Renders) :
    allParts items = .ok ((items.flatMap lines).map Value.text) := by
  induction items with
  | nil => rfl
  | cons item rest ih =>
    have hitem := renders_iff.mp (h item (List.mem_cons_self ..))
    have hrest := ih fun i hi => h i (List.mem_cons_of_mem _ hi)
    rw [allParts, hitem, hrest, List.flatMap_cons, List.map_append]
    rfl

/-- The body of items that can be shown by themselves. -/
theorem body_of_renders {items : List Item} (hne : items ≠ []) (h : ∀ item ∈ items, item.Renders) :
    body items = .ok (lineBreak.intercalate (items.reverse.flatMap lines)) := by
  have hparts : allParts items.reverse = .ok ((items.reverse.flatMap lines).map Value.text) :=
    allParts_of_renders fun item hi => h item (List.mem_reverse.mp hi)
  rw [body, if_neg (by rwa [List.isEmpty_iff]), hparts]
  simp only [bind, Except.bind, texts_eq_ok_iff.mpr rfl]
  rfl

theorem exists_body {items : List Item} (h : ∀ item ∈ items, item.Renders) :
    ∃ text, body items = .ok text ∧ (text = noNews ↔ items = []) := by
  by_cases hne : items = []
  · exact ⟨noNews, by rw [hne]; rfl, iff_of_true rfl hne⟩
  · refine ⟨_, body_of_renders hne h, iff_of_false ?_ hne⟩
    cases hitems : items.reverse with
    | nil => exact absurd (List.reverse_eq_nil_iff.mp hitems) hne
    | cons item rest =>
      have hitem : item ∈ items := List.mem_reverse.mp (hitems ▸ List.mem_cons_self ..)
      obtain ⟨title, ls, hlines⟩ := exists_lines_eq (h item hitem)
      rw [List.flatMap_cons, hlines, List.cons_append, String.append_assoc,
        String.intercalate_cons_append]
      intro heq
      have hchars := congrArg String.toList heq
      rw [String.toList_append] at hchars
      cases hchars

theorem renders_of_allParts {items : List Item} {ls : List String}
    (h : allParts items = .ok (ls.map Value.text)) : ∀ item ∈ items, item.Renders := by
  induction items generalizing ls with
  | nil => exact fun _ hi => nomatch hi
  | cons item rest ih =>
    obtain ⟨here, hhere, h⟩ := bind_eq_ok.mp h
    obtain ⟨others, hothers, h⟩ := bind_eq_ok.mp h
    obtain ⟨own, more, _, rfl, rfl⟩ := List.append_eq_map_iff.mp (Except.ok.inj h)
    exact List.forall_mem_cons.mpr ⟨renders_of_itemParts own hhere, ih hothers⟩

/-- Items have a body exactly when each of them can be shown by itself. -/
theorem exists_body_iff {items : List Item} :
    (∃ text, body items = .ok text) ↔ ∀ item ∈ items, item.Renders := by
  constructor
  · rintro ⟨text, h⟩
    by_cases hne : items = []
    · rw [hne]
      exact fun _ hi => nomatch hi
    · rw [body, if_neg (by rwa [List.isEmpty_iff])] at h
      obtain ⟨parts, hparts, h⟩ := bind_eq_ok.mp h
      obtain ⟨ls, hls, _⟩ := bind_eq_ok.mp h
      rw [texts_eq_ok_iff.mp hls] at hparts
      exact fun item hi => renders_of_allParts hparts item (List.mem_reverse.mpr hi)
  · intro h
    obtain ⟨text, hbody, _⟩ := exists_body h
    exact ⟨text, hbody⟩

end Html

end Newswire

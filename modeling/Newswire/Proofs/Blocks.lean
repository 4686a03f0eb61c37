import Mathlib.Data.List.Forall2
import Newswire.Proofs.Rendering

/-!
The body of a message, taken to pieces. The lines of one item are its block, which is also the body
of that item alone; the body of several items is their blocks with a line break between any two, the
last item first. So two lists of items are shown together by showing the second and then the first,
and what cannot be shown together holds an item that cannot be shown at all.
-/

namespace Newswire.Html

/-! ### Parts that are not empty -/

theorem intercalate_flatMap {α : Type} (mark : String) {group : α → List String} {as : List α}
    (h : ∀ a ∈ as, group a ≠ []) :
    mark.intercalate (as.flatMap group)
      = mark.intercalate (as.map fun a => mark.intercalate (group a)) := by
  induction as with
  | nil => rfl
  | cons a rest ih =>
    obtain ⟨ha, hrest⟩ := List.forall_mem_cons.mp h
    by_cases hempty : rest = []
    · rw [hempty, List.flatMap_singleton, List.map_singleton, String.intercalate_singleton]
    · obtain ⟨next, hnext⟩ := List.exists_mem_of_ne_nil rest hempty
      have hmore : rest.flatMap group ≠ [] := fun hnil =>
        hrest next hnext (List.flatMap_eq_nil_iff.mp hnil next hnext)
      have hmapped : rest.map (fun a => mark.intercalate (group a)) ≠ [] := by
        simpa only [ne_eq, List.map_eq_nil_iff] using hempty
      rw [List.flatMap_cons, List.map_cons, String.intercalate_append_of_ne_nil ha hmore,
        String.intercalate_cons_of_ne_nil hmapped, ih hrest]

/-! ### Blocks -/

/-- What the body shows of an item. -/
def block (item : Item) : String :=
  lineBreak.intercalate (lines item)

variable {item : Item} {items : List Item}

theorem lines_ne_nil (h : item.Renders) : lines item ≠ [] := by
  obtain ⟨title, rest, hlines⟩ := exists_lines_eq h
  rw [hlines]
  exact List.cons_ne_nil _ _

theorem body_eq_blocks (hne : items ≠ []) (h : ∀ item ∈ items, item.Renders) :
    body items = .ok (lineBreak.intercalate (items.map block).reverse) := by
  have hlines : ∀ item ∈ items.reverse, lines item ≠ [] :=
    fun item hitem => lines_ne_nil (h item (List.mem_reverse.mp hitem))
  rw [body_of_renders hne h, intercalate_flatMap lineBreak hlines, List.map_reverse]
  rfl

theorem body_singleton (h : item.Renders) : body [item] = .ok (block item) := by
  rw [body_eq_blocks (List.cons_ne_nil _ _) (List.forall_mem_singleton.mpr h), List.map_singleton,
    List.reverse_singleton, String.intercalate_singleton]

theorem body_append {xs ys : List Item} (hx : xs ≠ []) (hy : ys ≠ [])
    (h : ∀ item ∈ xs ++ ys, item.Renders) :
    ∃ newer older, body xs = .ok newer ∧ body ys = .ok older ∧
      body (xs ++ ys) = .ok (older ++ lineBreak ++ newer) := by
  obtain ⟨hxs, hys⟩ := List.forall_mem_append.mp h
  refine ⟨_, _, body_eq_blocks hx hxs, body_eq_blocks hy hys, ?_⟩
  have hnewer : (xs.map block).reverse ≠ [] := by simpa using hx
  have holder : (ys.map block).reverse ≠ [] := by simpa using hy
  rw [body_eq_blocks (List.append_ne_nil_of_left_ne_nil hx ys) h, List.map_append,
    List.reverse_append, String.intercalate_append_of_ne_nil holder hnewer]

theorem forall₂_block (h : ∀ item ∈ items, item.Renders) :
    List.Forall₂ (fun item text => body [item] = .ok text) items (items.map block) := by
  rw [List.forall₂_map_right_iff, List.forall₂_same]
  exact fun item hitem => body_singleton (h item hitem)

/-! ### What cannot be shown -/

theorem exists_fault_iff_not_renders : (∃ fault, body [item] = .error fault) ↔ ¬ item.Renders := by
  unfold Item.Renders
  cases body [item] <;> simp

theorem exists_body_fault_iff : (∃ fault, body items = .error fault) ↔
    ∃ item ∈ items, ∃ fault, body [item] = .error fault := by
  have hnot : (∃ fault, body items = .error fault) ↔ ¬ ∃ text, body items = .ok text := by
    cases body items <;> simp
  rw [hnot, exists_body_iff]
  simp only [exists_fault_iff_not_renders, not_forall, exists_prop]

theorem body_eq_noNews_iff : body items = .ok noNews ↔ items = [] := by
  constructor
  · intro hbody
    obtain ⟨text, htext, hno⟩ := exists_body (exists_body_iff.mp ⟨noNews, hbody⟩)
    exact hno.mp (Except.ok.inj (htext.symm.trans hbody))
  · rintro rfl
    rfl

/-- Two lists of items that can be shown are shown together by the body of the second, a line break
and the body of the first. Every item has one block there, which is the body of that item alone, and
the last item comes first. Items cannot be shown exactly when one of them cannot be shown alone, and
only the body of no items tells of no news. -/
theorem bodies_compose :
    (∀ xs ys : List Item, xs ≠ [] → ys ≠ [] → (∀ item ∈ xs ++ ys, item.Renders) →
      ∃ newer older, body xs = .ok newer ∧ body ys = .ok older ∧
        body (xs ++ ys) = .ok (older ++ lineBreak ++ newer)) ∧
    (∀ items : List Item, items ≠ [] → (∀ item ∈ items, item.Renders) →
      ∃ blocks, List.Forall₂ (fun item text => body [item] = .ok text) items blocks ∧
        body items = .ok (lineBreak.intercalate blocks.reverse)) ∧
    ∀ items : List Item,
      ((∃ fault, body items = .error fault) ↔
        ∃ item ∈ items, ∃ fault, body [item] = .error fault) ∧
      (body items = .ok noNews ↔ items = []) := by
  refine ⟨fun xs ys hx hy h => body_append hx hy h, fun items hne h => ?_, fun items => ?_⟩
  · exact ⟨items.map block, forall₂_block h, body_eq_blocks hne h⟩
  · exact ⟨exists_body_fault_iff, body_eq_noNews_iff⟩

theorem newer_below_older :
    let newer : Item := {
      guid := some (.text "b")
      title := some (.text "Fish & Chips")
      link := some (.text "http://news/b")
      summary := some (.text "<p>Fried</p>")
      published := some (Moment.utc? 2026 2 13 10 0 0) }
    newer.Renders ∧
      body [newer, .bare "Tea"] = .ok ("<b>Tea</b><br>\n<br>" ++ lineBreak ++
        "<b><a href=\"http://news/b\">Fish &amp; Chips</a></b><br>\n" ++
        "<i>2026-02-13 10:00 UTC</i><br>\n<p>Fried</p><br>\n<br>") := by
  intro newer
  have hnewer : newer.Renders := ⟨_, rfl⟩
  have hboth : ∀ item ∈ [newer] ++ [Item.bare "Tea"], item.Renders :=
    List.forall_mem_cons.mpr ⟨hnewer, List.forall_mem_singleton.mpr (Item.renders_bare "Tea")⟩
  obtain ⟨_, _, ⟨⟩, ⟨⟩, hbody⟩ := bodies_compose.1 [newer] [.bare "Tea"] (List.cons_ne_nil _ _)
    (List.cons_ne_nil _ _) hboth
  exact ⟨hnewer, hbody⟩

end Newswire.Html

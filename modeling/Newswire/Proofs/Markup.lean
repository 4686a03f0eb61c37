import Newswire.Proofs.Blocks

/-!
What titles and links can do to the markup of a body. Markup is made with four characters: tags
stand between angle brackets, and a link between quotes. None of the four is left in an escaped
text, so they all come from the templates, and two lists of items without summaries that ask for the
same templates have the same of them, in the same order, whatever their titles and links say.
-/

namespace Newswire.Html

/-! ### Characters that make markup -/

def isMark (c : Char) : Bool :=
  c = '<' || c = '>' || c = '\x22' || c = '\x27'

/-- The characters of a text that make markup, in their order. -/
def marks (s : String) : List Char :=
  s.toList.filter isMark

theorem marks_append (s t : String) : marks (s ++ t) = marks s ++ marks t := by
  unfold marks
  rw [String.toList_append, List.filter_append]

theorem filter_escapeChar (c : Char) : (escapeChar c).filter isMark = [] := by
  unfold escapeChar
  split
  · rfl
  split
  · rfl
  split
  · rfl
  split
  · rfl
  split
  · rfl
  -- a character that is not replaced is none of the five
  · next hlt hgt hquote hapostrophe =>
    have hplain : isMark c = false := by
      simp only [isMark, hlt, hgt, hquote, hapostrophe, decide_false, Bool.or_self]
    rw [List.filter_cons, hplain]
    rfl

theorem marks_escape (s : String) : marks (escape s) = [] := by
  have hchars : (escape s).toList = s.toList.flatMap escapeChar := String.toList_ofList
  unfold marks
  rw [hchars, List.filter_flatMap, List.flatMap_eq_nil_iff]
  intro c _
  exact filter_escapeChar c

theorem marks_intercalate (mark : String) {as bs : List String}
    (h : as.map marks = bs.map marks) :
    marks (mark.intercalate as) = marks (mark.intercalate bs) := by
  induction as generalizing bs with
  | nil =>
    obtain rfl := List.map_eq_nil_iff.mp h.symm
    rfl
  | cons a as ih =>
    obtain ⟨b, bs, rfl, hhere, hrest⟩ := List.map_eq_cons_iff.mp h.symm
    by_cases hempty : as = []
    · subst hempty
      obtain rfl := List.map_eq_nil_iff.mp hrest
      rw [String.intercalate_singleton, String.intercalate_singleton]
      exact hhere.symm
    · have hmore : bs ≠ [] := by
        rintro rfl
        exact hempty (List.map_eq_nil_iff.mp hrest.symm)
      rw [String.intercalate_cons_of_ne_nil hempty, String.intercalate_cons_of_ne_nil hmore]
      simp only [marks_append]
      rw [hhere, ih hrest.symm]

/-! ### The template of an item without a summary -/

/-- The title as it stands in the body, without a link or with one. -/
def titled (title : String) : Option String → String
  | none => title
  | some link => "<a href=\"" ++ link ++ "\">" ++ title ++ "</a>"

/-- What is shown of an item that has a title, and perhaps a link and a date. -/
def template (title : String) (link : Option String) (date : Option Moment) : String :=
  lineBreak.intercalate (("<b>" ++ titled title link ++ "</b>") ::
    (date.map fun m => "<i>" ++ m.short ++ " UTC</i>").toList ++ ["<br>"])

/-- The template of the item, with nothing in the places of the title and the link. -/
def skeleton (item : Item) : String :=
  template "" ((telling? item.link).map fun _ => "") (item.published.bind id)

variable {item other : Item} {items others : List Item}

theorem marks_template {title title' : String} (htitle : marks title = marks title')
    {link link' : Option String} (hlink : link.map marks = link'.map marks) (date : Option Moment) :
    marks (template title link date) = marks (template title' link' date) := by
  have hhead : marks (titled title link) = marks (titled title' link') := by
    cases link with
    | none =>
      obtain rfl := Option.map_eq_none_iff.mp hlink.symm
      exact htitle
    | some l =>
      obtain ⟨l', rfl, hmarks⟩ := Option.map_eq_some_iff.mp hlink.symm
      simp only [titled, marks_append]
      rw [hmarks, htitle]
  apply marks_intercalate
  simp only [List.cons_append, List.map_cons, marks_append]
  rw [hhead]

theorem escapeValue_eq_ok_iff {v : Value} {text : String} :
    escapeValue v = .ok text ↔ ∃ given, v = .text given ∧ text = escape given := by
  unfold escapeValue
  constructor
  · intro h
    cases hgiven : v.asText "replace" with
    | error misuse =>
      rw [hgiven] at h
      cases h
    | ok given =>
      rw [hgiven] at h
      exact ⟨given, Value.asText_eq_ok_iff.mp hgiven, (Except.ok.inj h).symm⟩
  · rintro ⟨given, rfl, rfl⟩
    rfl

theorem heading_eq_ok {text : String} (h : heading item = .ok text) :
    ∃ title link, item.title = some (.text title) ∧ telling? item.link = Option.map .text link ∧
      text = titled (escape title) (link.map escape) := by
  obtain ⟨given, hgiven, h⟩ := bind_eq_ok.mp h
  obtain ⟨escaped, hescaped, h⟩ := bind_eq_ok.mp h
  obtain ⟨title, rfl, rfl⟩ := escapeValue_eq_ok_iff.mp hescaped
  have htitle : item.title = some (.text title) := by
    cases hfield : item.title with
    | none =>
      rw [hfield] at hgiven
      cases hgiven
    | some own =>
      rw [hfield] at hgiven
      rw [Except.ok.inj hgiven]
  cases hlink : telling? item.link with
  | none =>
    rw [hlink] at h
    cases h
    exact ⟨title, none, htitle, rfl, rfl⟩
  | some target =>
    rw [hlink] at h
    obtain ⟨escaped, hescaped, h⟩ := bind_eq_ok.mp h
    obtain ⟨link, rfl, rfl⟩ := escapeValue_eq_ok_iff.mp hescaped
    cases h
    exact ⟨title, some link, htitle, rfl, rfl⟩

theorem exists_block_eq (h : item.Renders) (hsummary : telling? item.summary = none) :
    ∃ title link, item.title = some (.text title) ∧ telling? item.link = Option.map .text link ∧
      block item = template (escape title) (link.map escape) (item.published.bind id) := by
  have hparts := renders_iff.mp h
  unfold itemParts at hparts
  obtain ⟨text, htext, hparts⟩ := bind_eq_ok.mp hparts
  obtain ⟨title, link, htitle, hlink, rfl⟩ := heading_eq_ok htext
  refine ⟨title, link, htitle, hlink, ?_⟩
  have hvalues := Except.ok.inj hparts
  rw [hsummary] at hvalues
  have hlines := congrArg (List.filterMap Value.text?) hvalues
  rw [filterMap_text?] at hlines
  unfold block template
  rw [← hlines]
  cases item.published.bind id <;> rfl

/-- The marks of what is shown of an item are those of its template. -/
theorem marks_block (h : item.Renders) (hsummary : telling? item.summary = none) :
    marks (block item) = marks (skeleton item) := by
  obtain ⟨title, link, _, hlink, hblock⟩ := exists_block_eq h hsummary
  rw [hblock, skeleton, hlink]
  refine marks_template (marks_escape title) ?_ _
  cases link with
  | none => rfl
  | some l => exact congrArg some (marks_escape l)

theorem marks_body (hne : items ≠ []) (h : ∀ item ∈ items, item.Renders)
    (hsummary : ∀ item ∈ items, telling? item.summary = none) :
    ∃ text, body items = .ok text ∧
      marks text = marks (lineBreak.intercalate (items.map skeleton).reverse) := by
  refine ⟨_, body_eq_blocks hne h, marks_intercalate _ ?_⟩
  rw [List.map_reverse, List.map_reverse, List.map_map, List.map_map]
  congr 1
  exact List.map_congr_left fun item hitem => marks_block (h item hitem) (hsummary item hitem)

/-! ### Items that ask for the same templates -/

/-- Both items have a link, or neither, and both have the same date, or none. -/
structure Alike (item other : Item) : Prop where
  link : (telling? item.link).isSome = (telling? other.link).isSome
  date : item.published.bind id = other.published.bind id

theorem Alike.skeleton_eq (h : Alike item other) : skeleton item = skeleton other := by
  unfold skeleton
  rw [h.date]
  have hlink := h.link
  cases hitem : telling? item.link <;> cases hother : telling? other.link <;>
    rw [hitem, hother] at hlink <;> first | rfl | cases hlink

theorem map_skeleton_eq (h : List.Forall₂ Alike items others) :
    items.map skeleton = others.map skeleton := by
  induction h with
  | nil => rfl
  | cons hone _ ih => rw [List.map_cons, List.map_cons, hone.skeleton_eq, ih]

/-- Titles and links bring no markup of their own. Two lists of items without summaries that can be
shown, and that agree one by one on the date and on whether there is a link, are shown by bodies
with the same marks in the same order. Each item is shown by its template, with the escaped title
and link in it, and no escaped text has a mark. -/
theorem titles_bring_no_markup (h : ∀ item ∈ items, item.Renders)
    (h' : ∀ item ∈ others, item.Renders)
    (hsummary : ∀ item ∈ items, telling? item.summary = none)
    (hsummary' : ∀ item ∈ others, telling? item.summary = none)
    (halike : List.Forall₂ Alike items others) :
    (∃ text text', body items = .ok text ∧ body others = .ok text' ∧ marks text = marks text') ∧
    (∀ item ∈ items, ∃ title link,
      item.title = some (.text title) ∧ telling? item.link = Option.map .text link ∧
        body [item] = .ok (template (escape title) (link.map escape) (item.published.bind id))) ∧
    ∀ s, marks (escape s) = [] := by
  refine ⟨?_, fun item hitem => ?_, marks_escape⟩
  · by_cases hempty : items = []
    · subst hempty
      obtain rfl := List.forall₂_nil_left_iff.mp halike
      exact ⟨noNews, noNews, rfl, rfl, rfl⟩
    · have hmore : others ≠ [] := by
        rintro rfl
        exact hempty (List.forall₂_nil_right_iff.mp halike)
      obtain ⟨text, htext, hmarks⟩ := marks_body hempty h hsummary
      obtain ⟨text', htext', hmarks'⟩ := marks_body hmore h' hsummary'
      refine ⟨text, text', htext, htext', ?_⟩
      rw [hmarks, hmarks', map_skeleton_eq halike]
  · obtain ⟨title, link, htitle, hlink, hblock⟩ := exists_block_eq (h item hitem)
      (hsummary item hitem)
    have hbody := body_singleton (h item hitem)
    rw [hblock] at hbody
    exact ⟨title, link, htitle, hlink, hbody⟩

/-- A title that tries to end its place, and a link that tries to end the quotes, leave the marks as
they are with a plain title and a plain link. -/
theorem hostile_title_shown_as_plain :
    let date := Moment.utc? 2026 2 13 10 0 0
    let hostile : Item := {
      guid := some (.text "a")
      title := some (.text "</a></b><script>alert('&lt;')</script>")
      link := some (.text "http://news\" onclick='a()'><i>")
      summary := some (.text "")
      published := some date }
    let plain : Item := {
      guid := some (.text "b")
      title := some (.text "Tea")
      link := some (.text "http://news/b")
      summary := none
      published := some date }
    ∃ text text', body [.bare "<", hostile] = .ok text ∧ body [.bare "", plain] = .ok text' ∧
      marks text = marks text' ∧
      marks text = "<b><a href=\"\"></a></b><br><i></i><br><br><br><b></b><br><br>".toList.filter
        isMark := by
  intro date hostile plain
  have hitems : ∀ item ∈ [Item.bare "<", hostile], item.Renders :=
    List.forall_mem_cons.mpr ⟨Item.renders_bare "<", List.forall_mem_singleton.mpr ⟨_, rfl⟩⟩
  have hothers : ∀ item ∈ [Item.bare "", plain], item.Renders :=
    List.forall_mem_cons.mpr ⟨Item.renders_bare "", List.forall_mem_singleton.mpr ⟨_, rfl⟩⟩
  have halike : List.Forall₂ Alike [Item.bare "<", hostile] [Item.bare "", plain] :=
    .cons ⟨rfl, rfl⟩ (.cons ⟨rfl, rfl⟩ .nil)
  obtain ⟨⟨text, text', htext, htext', hmarks⟩, _, _⟩ :=
    titles_bring_no_markup hitems hothers (by decide) (by decide) halike
  refine ⟨text, text', htext, htext', hmarks, ?_⟩
  rw [hmarks]
  obtain rfl := Except.ok.inj htext'
  decide +kernel

end Newswire.Html

import Newswire.Feed.Address
import Newswire.Proofs.Stopping

/-!
Which addresses are served, told by the form of their text: a scheme of the web in letters of either
case, a colon and two slashes, an authority that is not empty and is not refused, and then the end or
a mark that ends an authority. The check of an address passes these and no others.
-/

namespace Newswire.Address

def endMarks : List Char := ['/', '?', '#']

/-- The text is a scheme, a colon and two slashes, an authority, and what follows it. -/
structure Parts (cs scheme place rest : List Char) : Prop where
  text : cs = scheme ++ ':' :: '/' :: '/' :: (place ++ rest)
  place : ∀ c ∈ place, c ∉ endMarks
  rest : ∀ c ∈ rest.head?, c ∈ endMarks

/-- The authority is not refused: its brackets fit, and it holds no mark in disguise. -/
def Permitted (place : List Char) : Prop :=
  bracketsFit place = true ∧ ∀ c ∈ place, c.toNat ∉ disguised

/-- The address can be asked for a feed. -/
def Served (address : String) : Prop :=
  ∃ scheme place rest, Parts (cleaned address.toList) scheme place rest ∧
    String.ofList (scheme.map Char.toLower) ∈ schemes ∧ place ≠ [] ∧ Permitted place

variable {cs scheme place rest : List Char}

/-! ### Schemes -/

theorem isLetter_of_toLower {c : Char} (h : isLetter c.toLower = true) : isLetter c = true := by
  unfold Char.toLower at h
  split at h
  · next hupper =>
    have hlast : c.val.toNat ≤ 90 := hupper.2
    have hascii : c.toNat < 0x80 := Nat.lt_of_le_of_lt hlast (by decide)
    have halpha : c.isAlpha = true := Bool.or_eq_true_iff.mpr (.inl (decide_eq_true hupper))
    rw [isLetter, decide_eq_true hascii, halpha]
    rfl
  · exact h

theorem isLetter_of_mem_scheme (h : String.ofList (scheme.map Char.toLower) ∈ schemes) :
    ∀ c ∈ scheme, isLetter c = true := by
  have hletters : schemes.all (fun name => name.toList.all isLetter) = true := rfl
  have hall := List.all_eq_true.mp hletters _ h
  rw [String.toList_ofList, List.all_map] at hall
  intro c hc
  exact isLetter_of_toLower (List.all_eq_true.mp hall c hc)

theorem scheme_ne_nil (h : String.ofList (scheme.map Char.toLower) ∈ schemes) : scheme ≠ [] := by
  rintro rfl
  revert h
  decide

theorem splitScheme_eq (hne : scheme ≠ []) (h : ∀ c ∈ scheme, isLetter c = true)
    (rest : List Char) : splitScheme (scheme ++ ':' :: rest) = (scheme.map Char.toLower, rest) := by
  have hcolon : ∀ c ∈ scheme, (c != ':') = true := by
    intro c hc
    refine bne_iff_ne.mpr fun heq => ?_
    have hletter := h c hc
    rw [heq] at hletter
    cases hletter
  have hstop : ∀ c ∈ (':' :: rest).head?, (c != ':') = false := by
    rintro _ ⟨⟩
    rfl
  have htake := takeWhile_append_stop hcolon hstop
  have hdrop := dropWhile_append_stop hcolon hstop
  have hall : scheme.all isSchemeChar = true := by
    refine List.all_eq_true.mpr fun c hc => ?_
    simp only [isSchemeChar, h c hc, Bool.true_or]
  obtain ⟨first, others, rfl⟩ := List.exists_cons_of_ne_nil hne
  have hfirst : isLetter first = true := h first List.mem_cons_self
  unfold splitScheme
  simp only [htake, hdrop, List.head?_cons, Option.map_some, Option.getD_some, hfirst, hall,
    Bool.and_self, if_true]

theorem exists_of_splitScheme {small : List Char} (h : splitScheme cs = (small, rest))
    (hne : small ≠ []) : ∃ scheme, cs = scheme ++ ':' :: rest ∧ small = scheme.map Char.toLower := by
  unfold splitScheme at h
  have hcs : cs.takeWhile (· != ':') ++ cs.dropWhile (· != ':') = cs :=
    List.takeWhile_append_dropWhile
  cases hdrop : cs.dropWhile (· != ':') with
  | nil =>
    rw [hdrop] at h
    cases h
    exact absurd rfl hne
  | cons c tail =>
    have hcolon : (c != ':') = false := stops_dropWhile c (congrArg List.head? hdrop)
    obtain rfl : c = ':' := bne_eq_false_iff_eq.mp hcolon
    rw [hdrop] at h hcs
    dsimp only at h
    split at h
    · cases h
      exact ⟨_, hcs.symm, rfl⟩
    · cases h
      exact absurd rfl hne

/-! ### Authorities -/

theorem goesOn_eq (c : Char) : (!(c == '/' || c == '?' || c == '#')) = !endMarks.contains c := by
  simp only [endMarks, List.contains_cons, List.contains_nil, Bool.or_false, Bool.or_assoc]

theorem authority_eq (h : Parts cs scheme place rest) :
    authority ('/' :: '/' :: (place ++ rest)) = place := by
  simp only [authority, goesOn_eq]
  apply takeWhile_append_stop
  · simpa using h.place
  · simpa using h.rest

theorem exists_of_authority (h : authority cs = place) (hne : place ≠ []) :
    ∃ rest, cs = '/' :: '/' :: (place ++ rest) ∧ (∀ c ∈ place, c ∉ endMarks) ∧
      ∀ c ∈ rest.head?, c ∈ endMarks := by
  simp only [authority, goesOn_eq] at h
  split at h
  · next tail =>
    subst h
    refine ⟨_, by rw [List.takeWhile_append_dropWhile], fun c hc => ?_, fun c hc => ?_⟩
    · simpa using List.all_eq_true.mp List.all_takeWhile c hc
    · simpa using stops_dropWhile c hc
  · exact absurd h.symm hne

/-! ### The check -/

theorem not_permitted_iff : (!bracketsFit place || place.any (disguised.contains ·.toNat)) = true ↔
    ¬ Permitted place := by
  unfold Permitted
  cases bracketsFit place <;> simp

theorem check_of_split {address : String} {small : List Char}
    (h : splitScheme (cleaned address.toList) = (small, rest)) :
    check (some address) = .ok () ↔ Permitted (authority rest) ∧ small ≠ [] ∧ authority rest ≠ [] ∧
      String.ofList small ∈ schemes := by
  unfold check
  rw [Option.getD_some, h]
  dsimp only
  split
  · next hbad => exact iff_of_false nofun fun hall => not_permitted_iff.mp hbad hall.1
  · next hfit =>
    have hpermitted : Permitted (authority rest) :=
      Classical.not_not.mp fun hno => hfit (not_permitted_iff.mpr hno)
    have hempty : (small.isEmpty || (authority rest).isEmpty) = true ↔
        small = [] ∨ authority rest = [] := by
      rw [Bool.or_eq_true, List.isEmpty_iff, List.isEmpty_iff]
    split
    · next h => exact iff_of_false nofun fun hall => (hempty.mp h).elim hall.2.1 hall.2.2.1
    · next h =>
      obtain ⟨hsmall, hplace⟩ := not_or.mp fun hnil => h (hempty.mpr hnil)
      split
      · next hweb => exact iff_of_true rfl ⟨hpermitted, hsmall, hplace, hweb⟩
      · next hweb => exact iff_of_false nofun fun hall => hweb hall.2.2.2

theorem check_eq_ok_iff {address : String} : check (some address) = .ok () ↔ Served address := by
  constructor
  · intro h
    cases hsplit : splitScheme (cleaned address.toList) with
    | mk small tail =>
      obtain ⟨hpermitted, hsmall, hplace, hscheme⟩ := (check_of_split hsplit).mp h
      obtain ⟨scheme, htext, rfl⟩ := exists_of_splitScheme hsplit hsmall
      obtain ⟨rest, htail, hinside, hstop⟩ := exists_of_authority rfl hplace
      exact ⟨scheme, _, rest, ⟨htext.trans (htail ▸ rfl), hinside, hstop⟩, hscheme, hplace,
        hpermitted⟩
  · rintro ⟨scheme, place, rest, hparts, hscheme, hplace, hpermitted⟩
    have hne : scheme ≠ [] := scheme_ne_nil hscheme
    have hsplit := splitScheme_eq hne (isLetter_of_mem_scheme hscheme) ('/' :: '/' :: (place ++ rest))
    rw [← hparts.text] at hsplit
    rw [check_of_split hsplit, authority_eq hparts]
    exact ⟨hpermitted, by simpa using hne, hplace, hscheme⟩

end Newswire.Address

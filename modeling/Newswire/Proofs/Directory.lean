import Newswire.Proofs.Rendering
import Newswire.Proofs.Restart.Filing

/-!
The table as a directory: contacts in the order in which they were entered, one at an address, each
under a number of its own. Whatever is asked of the table, in whatever order, it answers what the
directory does. The one thing in which it is stricter is that it takes no text that cannot be
written in bytes; such a request changes nothing.
-/

namespace Newswire

/-- Contacts in the order in which they were entered, and how many were. -/
structure Directory where
  entries : List Contact
  entered : Nat

/-- What is asked of a table. To reopen is to close it and open it again. -/
inductive Request where
  | add (c : Contact)
  | update (c : Contact)
  | delete (address : Option String)
  | find (address : Option String)
  | all
  | reopen

inductive Answer where
  | added (c : Contact)
  | updated
  | deleted (found : Bool)
  | found (c : Option Contact)
  | listed (cs : List Contact)
  | reopened

def takeAll {σ ρ α : Type} (step : σ → ρ → α × σ) : σ → List ρ → List α × σ
  | s, [] => ([], s)
  | s, r :: rest =>
    let (a, t) := step s r
    let (as, u) := takeAll step t rest
    (a :: as, u)

namespace Request

/-- The request is about a text for an address; a contact that it brings has a text for its name,
and its marker and its time are read back as they are. -/
def Proper : Request → Prop
  | add c => (∃ text, c.address = some text) ∧ c.Lasting ∧
      ∃ time, c.created = some time ∧ time.Legible
  | update c => (∃ text, c.address = some text) ∧ c.Lasting
  | delete address | find address => ∃ text, address = some text
  | all | reopen => True

/-- The texts that a contact brings, but for its address. -/
def own (c : Contact) : List String :=
  c.name.text?.toList ++ (c.marker.map Marker.text).toList

/-- The texts that would be written, in the order in which they are looked at. -/
def texts : Request → List String
  | add c => c.address.toList ++ own c
  | update c => own c ++ c.address.toList
  | delete address | find address => address.toList
  | all | reopen => []

end Request

namespace Directory

def new : Directory := ⟨[], 0⟩

def holds (d : Directory) (address : Option String) : Bool :=
  d.entries.any fun c => c.address == address

def takeOver (c entry : Contact) : Contact :=
  if entry.address == c.address then
    { entry with name := c.name, presence := c.presence, marker := c.marker }
  else entry

/-- What a directory does. -/
def act (d : Directory) : Request → Except Fault Answer × Directory
  | .add c =>
    if d.holds c.address then (.error (.alreadySubscribed c.address), d)
    else
      let c := { c with id := some (d.entered + 1) }
      (.ok (.added c), ⟨d.entries ++ [c], d.entered + 1⟩)
  | .update c => (.ok .updated, { d with entries := d.entries.map (takeOver c) })
  | .delete address =>
    (.ok (.deleted (d.holds address)),
      { d with entries := d.entries.filter fun c => c.address != address })
  | .find address => (.ok (.found (d.entries.find? fun c => c.address == address)), d)
  | .all => (.ok (.listed d.entries), d)
  | .reopen => (.ok .reopened, d)

/-- What a directory does that takes no text that cannot be written in bytes. -/
def serve (d : Directory) (r : Request) : Except Fault Answer × Directory :=
  match r.texts.findSome? Text.loneHalves? with
  | some why => (.error (.unwritable why), d)
  | none => d.act r

end Directory

namespace Store

def opened : Store := empty.connect

/-- What becomes of the store when something may have been done to it. -/
def settle {α : Type} (s : Store) (answer : α → Answer) :
    Except Fault (α × Store) → Except Fault Answer × Store
  | .ok (a, t) => (.ok (answer a), t)
  | .error fault => (.error fault, s)

def serve (s : Store) (r : Moment × Request) : Except Fault Answer × Store :=
  match r.2 with
  | .add c => s.settle .added (s.add c)
  | .update c => s.settle (fun _ => .updated) ((s.update c).map ((), ·))
  | .delete address => s.settle .deleted (s.delete address)
  | .find address => s.settle .found ((s.find? address r.1).map (·, s))
  | .all => s.settle .listed ((s.all r.1).map (·, s))
  | .reopen => (.ok .reopened, s.close.connect)

end Store

def Answer.given? : Except Fault Answer → Option Nat
  | .ok (.added c) => c.id
  | _ => none

/-! ### Texts that cannot be written -/

/-- What comes of it unless one of the texts cannot be written in bytes. -/
def unlessRefused {α : Type} (texts : List String) (x : Except Fault α) : Except Fault α :=
  match texts.findSome? Text.loneHalves? with
  | some why => .error (.unwritable why)
  | none => x

theorem unlessRefused_append {α : Type} (texts others : List String) (x : Except Fault α) :
    unlessRefused (texts ++ others) x = unlessRefused texts (unlessRefused others x) := by
  unfold unlessRefused
  rw [List.findSome?_append]
  cases texts.findSome? Text.loneHalves? <;> rfl

theorem map_unlessRefused {α β : Type} (texts : List String) (x : Except Fault α) (f : α → β) :
    (unlessRefused texts x).map f = unlessRefused texts (x.map f) := by
  unfold unlessRefused
  cases texts.findSome? Text.loneHalves? <;> rfl

theorem textCell_bind {α : Type} (text : String) (f : String → Except Fault α) :
    (textCell text >>= f) = unlessRefused [text] (f text) := by
  unfold textCell unlessRefused
  rw [List.findSome?_singleton]
  cases Text.loneHalves? text <;> rfl

theorem mapM_textCell_bind {α : Type} (text : Option String)
    (f : Option String → Except Fault α) :
    (text.mapM textCell >>= f) = unlessRefused text.toList (f text) := by
  cases text with
  | none => rfl
  | some text =>
    show ((textCell text >>= fun t => pure (some t)) >>= f) = _
    rw [bind_assoc, textCell_bind]
    rfl

theorem cell_bind {α : Type} {c : Contact} (hc : c.Lasting) (position : Nat)
    (f : Option String → Except Fault α) :
    (c.name.cell position >>= f) = unlessRefused c.name.text?.toList (f c.name.text?) := by
  obtain ⟨text, htext⟩ := hc.name
  rw [htext]
  show ((textCell text).map some >>= f) = unlessRefused [text] (f (some text))
  rw [← textCell_bind text fun t => f (some t)]
  cases textCell text <;> rfl

namespace Store

variable {s : Store} {d : Directory} {c : Contact} {address name : String} {created : Moment}

theorem settle_unlessRefused {α : Type} (answer : α → Answer) (texts : List String)
    (x : Except Fault (α × Store)) :
    s.settle answer (unlessRefused texts x) =
      match texts.findSome? Text.loneHalves? with
      | some why => (.error (.unwritable why), s)
      | none => s.settle answer x := by
  unfold unlessRefused
  cases texts.findSome? Text.loneHalves? <;> rfl

theorem ofContact_eq (ha : c.address = some address) (hc : c.Lasting) (hn : c.name = .text name)
    (ht : c.created = some created) (id : Nat) :
    Row.ofContact c id
      = unlessRefused (Request.add c).texts (.ok (rowOf id address name created c)) := by
  unfold Row.ofContact Request.texts Request.own
  rw [mapM_textCell_bind, cell_bind hc, mapM_textCell_bind, unlessRefused_append,
    unlessRefused_append, ha, hn, ht]
  rfl

theorem add_eq (hopen : s.isOpen = true) (ha : c.address = some address) (hc : c.Lasting)
    (hn : c.name = .text name) (ht : c.created = some created) :
    s.add c = unlessRefused (Request.add c).texts
      (if s.holds c.address then .error (.alreadySubscribed c.address)
      else .ok ({ c with id := some (s.lastId + 1) },
        { s with
          rows := s.rows ++ [rowOf (s.lastId + 1) address name created c]
          lastId := s.lastId + 1 })) := by
  have hopened : s.checkOpen = .ok () := checkOpen_eq_ok.mpr hopen
  unfold add insert
  rw [hopened, ofContact_eq ha hc hn ht]
  unfold unlessRefused
  cases (Request.add c).texts.findSome? Text.loneHalves? with
  | some why => rfl
  | none =>
    have hrow : (rowOf 0 address name created c).address = address := rfl
    simp only [bind, Except.bind, hrow, ← ha]
    by_cases hholds : s.holds c.address = true
    · simp only [if_pos hholds]
      rfl
    · simp only [if_neg hholds]
      rfl

theorem update_eq (hopen : s.isOpen = true) (hc : c.Lasting) (hn : c.name = .text name) :
    s.update c = unlessRefused (Request.update c).texts
      (.ok { s with rows := s.rows.map (writing name c) }) := by
  have hopened : s.checkOpen = .ok () := checkOpen_eq_ok.mpr hopen
  unfold update Request.texts Request.own
  rw [hopened]
  show (c.name.cell 1 >>= _) = _
  rw [cell_bind hc, unlessRefused_append, unlessRefused_append, hn]
  refine congrArg (unlessRefused _) ?_
  rw [mapM_textCell_bind]
  refine congrArg (unlessRefused _) ?_
  rw [mapM_textCell_bind]
  refine congrArg (unlessRefused _) ?_
  split
  · rfl
  · next hholds =>
    rw [map_writing_of_not_holds hholds]
    rfl

theorem delete_eq (hopen : s.isOpen = true) (address : Option String) :
    s.delete address = unlessRefused (Request.delete address).texts
      (.ok (s.holds address, { s with
        rows := s.rows.filter fun row => some row.address != address })) := by
  have hopened : s.checkOpen = .ok () := checkOpen_eq_ok.mpr hopen
  unfold delete
  rw [hopened]
  exact mapM_textCell_bind ..

theorem find?_eq (hopen : s.isOpen = true) (address : Option String) (now : Moment) :
    s.find? address now = unlessRefused (Request.find address).texts
      ((s.rows.find? fun row => some row.address == address).mapM (·.contact now)) := by
  have hopened : s.checkOpen = .ok () := checkOpen_eq_ok.mpr hopen
  unfold find?
  rw [hopened]
  exact mapM_textCell_bind ..

end Store

/-! ### Rows and entries -/

structure Row.Reads (row : Row) (c : Contact) : Prop where
  address : c.address = some row.address
  contact : ∀ now, row.contact now = .ok c

namespace Row.Reads

variable {row : Row} {entry c : Contact} {name : String}

theorem written (h : row.Reads entry) (hc : c.Lasting) (hn : c.name = .text name) :
    (Store.writing name c row).Reads (Directory.takeOver c entry) := by
  have haddress := h.address
  unfold Store.writing Directory.takeOver
  rw [← haddress]
  split
  · refine ⟨haddress, fun now => ?_⟩
    rw [contact_written (h.contact now), hc.map_asRead, hn]
  · exact h

end Row.Reads

namespace Store

/-- The rows of an open store say what the entries of the directory are, one by one. -/
structure Agrees (s : Store) (d : Directory) : Prop where
  isOpen : s.isOpen = true
  lastId : s.lastId = d.entered
  rows : List.Forall₂ Row.Reads s.rows d.entries

namespace Agrees

variable {s : Store} {d : Directory}

theorem holds (h : s.Agrees d) (address : Option String) : s.holds address = d.holds address := by
  have hrows := h.rows
  unfold Store.holds Directory.holds
  generalize s.rows = rows, d.entries = entries at hrows
  induction hrows with
  | nil => rfl
  | cons hfirst _ ih => rw [List.any_cons, List.any_cons, ih, hfirst.address]

theorem filter (h : s.Agrees d) (address : Option String) :
    List.Forall₂ Row.Reads (s.rows.filter fun row => some row.address != address)
      (d.entries.filter fun c => c.address != address) := by
  have hrows := h.rows
  generalize s.rows = rows, d.entries = entries at hrows
  induction hrows with
  | nil => exact .nil
  | cons hfirst _ ih =>
    rw [List.filter_cons, List.filter_cons, hfirst.address]
    split
    · exact .cons hfirst ih
    · exact ih

theorem find? (h : s.Agrees d) (address : Option String) (now : Moment) :
    (s.rows.find? fun row => some row.address == address).mapM (·.contact now)
      = .ok (d.entries.find? fun c => c.address == address) := by
  have hrows := h.rows
  generalize s.rows = rows, d.entries = entries at hrows
  induction hrows with
  | nil => rfl
  | cons hfirst _ ih =>
    rw [List.find?_cons, List.find?_cons, hfirst.address]
    split
    · exact bind_eq_ok.mpr ⟨_, hfirst.contact now, rfl⟩
    · exact ih

theorem all (h : s.Agrees d) (now : Moment) : s.all now = .ok d.entries :=
  all_eq_ok_iff.mpr ⟨h.isOpen, h.rows.imp fun _ _ hreads => hreads.contact now⟩

/-- A request is answered by the store as by the directory, and they go on agreeing. -/
theorem serve (h : s.Agrees d) {r : Request} (hr : r.Proper) (now : Moment) :
    (s.serve (now, r)).1 = (d.serve r).1 ∧ (s.serve (now, r)).2.Agrees (d.serve r).2 := by
  unfold Store.serve Directory.serve
  cases r with
  | add c =>
    obtain ⟨⟨address, ha⟩, hc, created, ht, hlegible⟩ := hr
    obtain ⟨name, hn⟩ := hc.name
    dsimp only
    rw [add_eq h.isOpen ha hc hn ht, settle_unlessRefused]
    split
    · exact ⟨rfl, h⟩
    · rw [Directory.act, h.holds]
      split
      · exact ⟨rfl, h⟩
      · rw [h.lastId]
        refine ⟨rfl, h.isOpen, rfl, List.rel_append h.rows (.cons ⟨ha, fun now => ?_⟩ .nil)⟩
        rw [contact_rowOf, hc.map_asRead, hlegible.asRead_eq, ← ha, ← hn, ← ht]
  | update c =>
    obtain ⟨_, hc⟩ := hr
    obtain ⟨name, hn⟩ := hc.name
    dsimp only
    rw [update_eq h.isOpen hc hn, map_unlessRefused, settle_unlessRefused]
    split
    · exact ⟨rfl, h⟩
    · refine ⟨rfl, h.isOpen, h.lastId, ?_⟩
      exact List.forall₂_map_left_iff.mpr (List.forall₂_map_right_iff.mpr
        (h.rows.imp fun _ _ hreads => hreads.written hc hn))
  | delete address =>
    dsimp only
    rw [delete_eq h.isOpen, settle_unlessRefused, h.holds]
    split
    · exact ⟨rfl, h⟩
    · exact ⟨rfl, h.isOpen, h.lastId, h.filter address⟩
  | find address =>
    dsimp only
    rw [find?_eq h.isOpen, map_unlessRefused, settle_unlessRefused, h.find?]
    split
    · exact ⟨rfl, h⟩
    · exact ⟨rfl, h⟩
  | all =>
    dsimp only
    rw [h.all]
    exact ⟨rfl, h⟩
  | reopen => exact ⟨rfl, rfl, h.lastId, h.rows⟩

theorem takeAll (h : s.Agrees d) {requests : List (Moment × Request)}
    (hproper : ∀ r ∈ requests, r.2.Proper) :
    let table := takeAll Store.serve s requests
    let directory := takeAll Directory.serve d (requests.map Prod.snd)
    table.1 = directory.1 ∧ table.2.Agrees directory.2 := by
  induction requests generalizing s d with
  | nil => exact ⟨rfl, h⟩
  | cons r rest ih =>
    obtain ⟨hanswer, hafter⟩ := h.serve (hproper r List.mem_cons_self) r.1
    obtain ⟨hanswers, hend⟩ := ih hafter fun r hr => hproper r (List.mem_cons_of_mem _ hr)
    exact ⟨List.cons_eq_cons.mpr ⟨hanswer, hanswers⟩, hend⟩

end Agrees

end Store

/-! ### Numbers -/

/-- No address is entered twice, the ids that were given count up from one, and the entries have
some of them, in the same order. -/
structure Directory.Numbered (d : Directory) (given : List Nat) : Prop where
  addresses : (d.entries.map Contact.address).Nodup
  counts : given = List.range' 1 d.entered
  ids : (d.entries.map Contact.id).Sublist (given.map some)

namespace Directory.Numbered

variable {d : Directory} {given : List Nat}

theorem act (h : d.Numbered given) (r : Request) :
    (d.act r).2.Numbered (given ++ (Answer.given? (d.act r).1).toList) := by
  have hsame : d.Numbered (given ++ []) := by rwa [List.append_nil]
  unfold Directory.act
  cases r with
  | add c =>
    dsimp only
    split
    · exact hsame
    · next hheld =>
      refine ⟨?_, ?_, ?_⟩
      · rw [List.map_append, List.map_singleton, ← List.concat_eq_append]
        refine h.addresses.concat fun hm => hheld ?_
        obtain ⟨entry, hentry, ha⟩ := List.mem_map.mp hm
        exact List.any_eq_true.mpr ⟨entry, hentry, beq_iff_eq.mpr ha⟩
      · rw [List.range'_1_concat, ← h.counts, Nat.add_comm 1]
        rfl
      · rw [List.map_append, List.map_append]
        exact h.ids.append (.refl _)
  | update c =>
    have hkept {α : Type} (field : Contact → α)
        (hfield : ∀ entry, field (takeOver c entry) = field entry) :
        (d.entries.map (takeOver c)).map field = d.entries.map field := by
      rw [List.map_map]
      exact List.map_congr_left fun entry _ => hfield entry
    refine ⟨?_, hsame.counts, ?_⟩
    · rw [hkept Contact.address fun entry => by unfold takeOver; split <;> rfl]
      exact hsame.addresses
    · rw [hkept Contact.id fun entry => by unfold takeOver; split <;> rfl]
      exact hsame.ids
  | delete address =>
    exact ⟨hsame.addresses.sublist (List.filter_sublist.map _), hsame.counts,
      (List.filter_sublist.map _).trans hsame.ids⟩
  | find | all | reopen => exact hsame

theorem serve (h : d.Numbered given) (r : Request) :
    (d.serve r).2.Numbered (given ++ (Answer.given? (d.serve r).1).toList) := by
  unfold Directory.serve
  split
  · show d.Numbered (given ++ [])
    rwa [List.append_nil]
  · exact h.act r

theorem takeAll (h : d.Numbered given) (requests : List Request) :
    let directory := takeAll Directory.serve d requests
    directory.2.Numbered (given ++ directory.1.filterMap Answer.given?) := by
  induction requests generalizing d given with
  | nil =>
    show d.Numbered (given ++ [])
    rwa [List.append_nil]
  | cons r rest ih =>
    have hrest := ih (h.serve r)
    dsimp only at hrest
    rw [List.append_assoc] at hrest
    dsimp only [Newswire.takeAll]
    rw [List.filterMap_cons]
    cases hgiven : Answer.given? (d.serve r).1 with
    | none =>
      rw [hgiven] at hrest
      exact hrest
    | some id =>
      rw [hgiven] at hrest
      exact hrest

end Directory.Numbered

namespace Store

/-- A new store that is opened answers each of the requests that are made of it as a directory does
that takes no text that cannot be written in bytes, and at any time it holds what the directory
does, in the same order. No address is there twice. The ids that it gives are one, two, three and so
on, whatever is removed or fails in between and however often it is reopened; the contacts that it
holds have theirs in the order in which they were given. -/
theorem serves_as_directory {requests : List (Moment × Request)}
    (hproper : ∀ r ∈ requests, r.2.Proper) :
    let table := takeAll Store.serve opened requests
    let directory := takeAll Directory.serve .new (requests.map Prod.snd)
    table.1 = directory.1 ∧ (∀ now, table.2.all now = .ok directory.2.entries) ∧
      (directory.2.entries.map Contact.address).Nodup ∧
      table.1.filterMap Answer.given? = List.range' 1 directory.2.entered ∧
      (directory.2.entries.map Contact.id).Sublist
        ((table.1.filterMap Answer.given?).map some) := by
  intro table directory
  have hstart : opened.Agrees .new := ⟨rfl, rfl, .nil⟩
  have hnew : Directory.new.Numbered [] := ⟨.nil, rfl, .slnil⟩
  obtain ⟨hanswers, hend⟩ := hstart.takeAll hproper
  have hnumbered := hnew.takeAll (requests.map Prod.snd)
  have hsame : table.1 = directory.1 := hanswers
  rw [hsame]
  exact ⟨rfl, hend.all, hnumbered.addresses, hnumbered.counts, hnumbered.ids⟩

theorem valid_day_of_newcomer :
    (1 ≤ 2026 ∧ 2026 ≤ 9999) ∧ (1 ≤ 2 ∧ 2 ≤ 12) ∧ (1 ≤ 13 ∧ 13 ≤ monthLength 2026 2) := by
  decide

def newcomer (address : String) : Contact :=
  .fresh (some address) .null ⟨⟨2026, 2, 13, valid_day_of_newcomer⟩, ⟨10, 0, 0, 0, by decide⟩, none⟩

theorem proper_add_newcomer (address : String) : (Request.add (newcomer address)).Proper :=
  ⟨⟨address, rfl⟩, ⟨⟨address, rfl⟩, fun _ hm => nomatch hm⟩, _, rfl, fun _ ho => nomatch ho⟩

/-- The id of a contact that was removed is not given again, nor after the store was reopened. -/
theorem next_id_after_removal :
    let now := (newcomer "a").created.get rfl
    let requests := [.add (newcomer "a"), .add (newcomer "a"), .delete (some "a"), .reopen,
      .add (newcomer "b")]
    (takeAll Store.serve opened (requests.map (now, ·))).1.filterMap Answer.given? = [1, 2] := by
  intro now requests
  have hproper : ∀ r ∈ requests.map (now, ·), r.2.Proper := by
    intro r hr
    obtain ⟨request, hrequest, rfl⟩ := List.mem_map.mp hr
    simp only [requests, List.mem_cons, List.not_mem_nil, or_false] at hrequest
    obtain rfl | rfl | rfl | rfl | rfl := hrequest
    · exact proper_add_newcomer "a"
    · exact proper_add_newcomer "a"
    · exact ⟨"a", rfl⟩
    · trivial
    · exact proper_add_newcomer "b"
  exact (serves_as_directory hproper).2.2.2.1

/-- It is not so that the store does what a directory does that takes any text: an address that
holds half of a surrogate pair is not entered. -/
theorem unwritable_address_not_entered :
    ¬ ∀ requests : List (Moment × Request), (∀ r ∈ requests, r.2.Proper) →
      (takeAll Store.serve opened requests).1
        = (takeAll Directory.act .new (requests.map Prod.snd)).1 := by
  intro hall
  let c := newcomer (Text.ofCodes [0xD800])
  have h := hall [(c.created.get rfl, .add c)] fun r hr => by
    rw [List.mem_singleton.mp hr]
    exact proper_add_newcomer _
  cases List.cons.inj h |>.1

end Store

end Newswire

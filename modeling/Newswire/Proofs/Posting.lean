import Newswire.Proofs.Acts

/-!
The presence of a contact and what is on file of it. When the store does not fail, each change of
the presence is posted in the contact's row. A look at the feed changes it in two ways only: a feed
that is found brings the contact online, and a feed that is gone takes it offline, which is when the
user is asked, and the only time.
-/

namespace Newswire

/-- The row is that of a contact that is stored, and says what its presence is. -/
structure Row.Posts (row : Row) (c : Contact) : Prop where
  address : some row.address = c.address
  persistent : row.persistent = true
  presence : row.presence = c.presence.word

theorem Row.Posts.congr {row : Row} {c d : Contact} (h : row.Posts c)
    (haddress : d.address = c.address) (hpresence : d.presence = c.presence) : row.Posts d :=
  ⟨h.address.trans haddress.symm, h.persistent, hpresence ▸ h.presence⟩

theorem Presence.ofWord_eq_ok {word : String} {p : Presence} (h : ofWord word = .ok p) :
    word = p.word := by
  unfold ofWord at h
  split at h
  · next hword =>
    cases h
    exact hword
  · split at h
    · next hword =>
      cases h
      exact hword
    · cases h

theorem Presence.word_inj {p q : Presence} (h : p.word = q.word) : p = q := by
  have hread := ofWord_word p
  rw [h, ofWord_word] at hread
  exact (Except.ok.inj hread).symm

theorem Row.posts_of_contact {row : Row} {now : Moment} {c : Contact}
    (h : row.contact now = .ok c) (hp : row.persistent = true) :
    row.Posts c ∧ c.persistent = true := by
  obtain ⟨_, _, _, hpresence, _, _, rfl⟩ := Row.contact_eq_ok_iff.mp h
  exact ⟨⟨rfl, hp, Presence.ofWord_eq_ok hpresence⟩, hp⟩

namespace Affairs

variable {a b : Affairs} {c : Contact}

/-- The contact is stored, and all that is on file of it says what its presence is. -/
structure Posted (a : Affairs) : Prop where
  persistent : a.contact.persistent = true
  filed : ∃ store, a.filed = some store ∧ ∀ row ∈ store.rows, row.Posts a.contact

theorem Posted.withContact (h : a.Posted) (hid : c.identity = a.contact.identity)
    (hpresence : c.presence = a.contact.presence) : (a.withContact c).Posted where
  persistent := (congrArg (·.2.1) hid).trans h.persistent
  filed := by
    obtain ⟨store, hstore, hrows⟩ := h.filed
    exact ⟨store, hstore, fun row hrow => (hrows row hrow).congr (congrArg Prod.fst hid) hpresence⟩

/-! ### Saving -/

theorem Posted.setPresence (h : a.Posted) {p : Presence} (hs : a.setPresence p = (.ok (), b)) :
    b.Posted := by
  obtain ⟨hp, store, hstore, hrows⟩ := h
  let changed : Contact := { a.contact with presence := p }
  have hown : ∀ row ∈ store.rows, some row.address = changed.address :=
    fun row hrow => (hrows row hrow).address
  obtain ⟨name, rfl, _⟩ := eq_of_save (a := a.withContact changed) hstore hown hp hs
  refine ⟨hp, _, rfl, fun row hrow => ?_⟩
  obtain ⟨old, hold, rfl⟩ := List.mem_map.mp hrow
  exact ⟨hown old hold, (hrows old hold).persistent, rfl⟩

theorem Posted.save (h : a.Posted) : a.save.2.Posted := by
  rcases hs : a.save with ⟨fault | _, b⟩
  · rw [eq_of_save_error hs]
    exact h
  · exact h.setPresence (p := a.contact.presence) hs

theorem Posted.comeBack (h : a.Posted) (hs : a.comeBack = (.ok (), b)) : b.Posted := by
  unfold Affairs.comeBack at hs
  split at hs
  · exact h.setPresence hs
  · cases hs
    exact h

/-! ### Looking -/

/-- A contact that can be brought back online is online and posted once it has taken a feed in,
however that ends. -/
theorem Posted.takeIn (h : a.Posted) (hback : a.comeBack.1 = .ok ()) (feed : Feed) :
    (a.takeIn feed).2.Posted ∧ (a.takeIn feed).2.contact.presence = .online := by
  have hposted : a.comeBack.2.Posted := h.comeBack (Prod.ext hback rfl)
  have hcontact : a.comeBack.2.contact = a.contact.online := contact_comeBack a
  obtain ⟨c, hid, _, hp, hends⟩ := takeIn_ends hback feed
  have htaken : (a.comeBack.2.withContact c).Posted :=
    hposted.withContact (by rw [hid, hcontact]; rfl) (by rw [hp, hcontact]; rfl)
  obtain ⟨fault, hend⟩ | ⟨_, hend⟩ | ⟨b, hs, hend⟩ := hends
  all_goals rw [hend]
  · exact ⟨htaken, hp⟩
  · exact ⟨htaken, hp⟩
  · have hsaved := htaken.save
    have hsame := contact_save (a.comeBack.2.withContact c)
    rw [hs] at hsaved hsame
    exact ⟨hsaved, (congrArg Contact.presence hsame).trans hp⟩

theorem Posted.remove (h : a.Posted) : a.remove.Posted := by
  obtain ⟨store, hstore, hrows⟩ := h.filed
  obtain ⟨shrink, hfiled, hsub⟩ := a.filed_remove
  refine ⟨a.contact_remove ▸ h.persistent, shrink store, by rw [hfiled, hstore]; rfl, ?_⟩
  rw [contact_remove]
  exact fun row hrow => hrows row (hsub store row hrow)

theorem Posted.recover (h : a.Posted) (hp : a.contact.presence = .online)
    (hset : (a.setPresence .offline).1 = .ok ()) (answer : Except Fault Bool) :
    (a.recover (some answer)).Posted ∧ (a.recover (some answer)).contact.presence = .offline ∧
      (a.recover (some answer)).asked = a.asked + 1 := by
  have hcontact := a.contact_setPresence .offline
  have hasked := a.asked_setPresence .offline
  have hon : ¬ a.contact.presence = .offline := by
    rw [hp]
    exact fun h => nomatch h
  unfold Affairs.recover
  rw [if_neg hon]
  rcases hoff : a.setPresence .offline with ⟨fault | _, u⟩
  · rw [hoff] at hset
    cases hset
  · rw [hoff] at hcontact hasked
    have hposted : { u with asked := u.asked + 1 }.Posted :=
      ⟨(h.setPresence hoff).persistent, (h.setPresence hoff).filed⟩
    have hpresence : u.contact.presence = .offline := congrArg Contact.presence hcontact
    have hcount : u.asked + 1 = a.asked + 1 := congrArg (· + 1) hasked
    dsimp only [ask]
    rcases answer with fault | _ | _
    · exact ⟨hposted, hpresence, hcount⟩
    · exact ⟨hposted, hpresence, hcount⟩
    · exact ⟨hposted.remove, by rw [contact_remove]; exact hpresence,
        (asked_remove _).trans hcount⟩

/-- How the presence of a contact moves, and when the user is asked, by what was found of the feed:
a feed brings the contact online, a feed that is gone takes it offline, and nothing else moves
it. -/
inductive Moves (a : Affairs) (found : Option (Except Fault Feed)) (b : Affairs) : Prop where
  | back (feed : Feed) (got : found = some (.ok feed)) (after : b.contact.presence = .online)
      (asked : b.asked = a.asked)
  | down (why : String) (got : found = some (.error (.gone why)))
      (before : a.contact.presence = .online) (after : b.contact.presence = .offline)
      (asked : b.asked = a.asked + 1)
  | still (none : ∀ feed, found ≠ some (.ok feed))
      (after : b.contact.presence = a.contact.presence) (asked : b.asked = a.asked)

theorem Posted.after (h : a.Posted) {found : Option (Except Fault Feed)}
    (hback : ∀ feed, found = some (.ok feed) → a.comeBack.1 = .ok ())
    (hdown : ∀ why, found = some (.error (.gone why)) → a.contact.presence = .online →
      (a.setPresence .offline).1 = .ok ()) (answer : Except Fault Bool) :
    (a.after found (some answer)).Posted ∧ a.Moves found (a.after found (some answer)) := by
  rcases found with _ | fault | feed
  · exact ⟨h, .still (fun _ h => nomatch h) rfl rfl⟩
  · cases fault with
    | gone why =>
      show (a.recover (some answer)).Posted ∧ a.Moves _ (a.recover (some answer))
      cases hp : a.contact.presence with
      | online =>
        obtain ⟨hposted, hafter, hasked⟩ := h.recover hp (hdown why rfl hp) answer
        exact ⟨hposted, .down why rfl hp hafter hasked⟩
      | offline =>
        have hstill : a.recover (some answer) = a := if_pos hp
        rw [hstill]
        exact ⟨h, .still (fun _ h => nomatch h) rfl rfl⟩
    | _ => exact ⟨h, .still (fun _ h => nomatch h) rfl rfl⟩
  · obtain ⟨hposted, hafter⟩ := h.takeIn (hback feed rfl) feed
    exact ⟨hposted, .back feed rfl hafter (a.listed_takeIn feed).2⟩

end Affairs

end Newswire

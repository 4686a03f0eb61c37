import Newswire.Proofs.Looking
import Newswire.Proofs.Table

/-!
The affairs of a contact: the contact itself, its place in the list, what the store holds of its
address, and how often the user was asked about it. What becomes of them when the feed is looked at,
or found gone, is told by them alone, by what the look finds and by what the user answers.
-/

namespace Newswire

def Contact.identity (c : Contact) : Option String × Bool × Option Moment × Option Nat :=
  (c.address, c.persistent, c.created, c.id)

/-- What concerns one contact. -/
structure Affairs where
  contact : Contact
  listed : Nat
  filed : Option Store
  asked : Nat

namespace Affairs

def withContact (a : Affairs) (c : Contact) : Affairs :=
  { a with contact := c }

/-! ### Saving -/

def save (a : Affairs) : Except Fault Unit × Affairs :=
  match a.filed with
  | none => (.ok (), a)
  | some store =>
    if a.contact.persistent then
      match store.update a.contact with
      | .ok store => (.ok (), { a with filed := some store })
      | .error fault => (.error fault, a)
    else (.ok (), a)

/-- The store, if there is one, takes the contact if it is one that is stored. -/
def CanFile (a : Affairs) (c : Contact) : Prop :=
  ∀ store, a.filed = some store → c.persistent = true → store.Takes c

/-- A contact is saved, which changes what is on file and nothing else, or the store does not take
it. What the store takes stays the same. -/
theorem save_cases (a : Affairs) :
    (a.CanFile a.contact ∧ ∃ filed, a.save = (.ok (), { a with filed := filed }) ∧
        ∀ c, { a with filed := filed }.CanFile c ↔ a.CanFile c) ∨
      ¬ a.CanFile a.contact ∧ ∃ fault, a.save = (.error fault, a) := by
  unfold save
  split
  · next hfiled =>
    exact .inl ⟨fun _ hstore => (nomatch hfiled.symm.trans hstore), a.filed, rfl, fun _ => .rfl⟩
  · next store hfiled =>
    split
    · next hp =>
      cases hu : store.update a.contact with
      | error fault =>
        refine .inr ⟨fun hcan => ?_, fault, rfl⟩
        obtain ⟨_, ht⟩ := Store.exists_update_iff.mpr (hcan store hfiled hp)
        cases hu.symm.trans ht
      | ok t =>
        obtain ⟨htakes, ho, ha⟩ := Store.update_eq_ok hu
        refine .inl ⟨fun own hown _ => ?_, some t, rfl, fun c => ⟨fun hc own hown hcp => ?_,
          fun hc own hown hcp => ?_⟩⟩
        · obtain rfl := Option.some.inj (hfiled.symm.trans hown)
          exact htakes
        · obtain rfl := Option.some.inj (hfiled.symm.trans hown)
          exact Store.takes_congr ho.symm ha.symm (hc t rfl hcp)
        · obtain rfl := Option.some.inj hown
          exact Store.takes_congr ho ha (hc store hfiled hcp)
    · next hp => exact .inl ⟨fun _ _ hcp => absurd hcp hp, a.filed, rfl, fun _ => .rfl⟩

theorem save_eq_ok_iff {a : Affairs} : a.save.1 = .ok () ↔ a.CanFile a.contact := by
  rcases a.save_cases with ⟨hcan, _, hsaved, _⟩ | ⟨hcannot, _, hfailed⟩
  · rw [hsaved]
    exact ⟨fun _ => hcan, fun _ => rfl⟩
  · rw [hfailed]
    exact ⟨fun hok => (nomatch hok), fun hcan => absurd hcan hcannot⟩

theorem canFile_save {a : Affairs} {c : Contact} : a.save.2.CanFile c ↔ a.CanFile c := by
  rcases a.save_cases with ⟨_, _, hsaved, hsame⟩ | ⟨_, _, hfailed⟩
  · rw [hsaved]
    exact hsame c
  · rw [hfailed]

theorem eq_of_save_error {a b : Affairs} {fault : Fault} (hs : a.save = (.error fault, b)) :
    b = a := by
  rcases a.save_cases with ⟨_, _, hsaved, _⟩ | ⟨_, _, hfailed⟩
  · cases hsaved.symm.trans hs
  · cases hfailed.symm.trans hs
    rfl

theorem eq_of_save {a b : Affairs} {store : Store} (hfiled : a.filed = some store)
    (hown : ∀ row ∈ store.rows, some row.address = a.contact.address)
    (hp : a.contact.persistent = true) (hs : a.save = (.ok (), b)) :
    ∃ name, b = { a with filed := some { store with
        rows := store.rows.map (·.written name a.contact) } } ∧
      (store.rows ≠ [] → a.contact.name.cell 1 = .ok (some name)) := by
  unfold save at hs
  rw [hfiled] at hs
  dsimp only at hs
  rw [if_pos hp] at hs
  cases hu : store.update a.contact with
  | error fault =>
    rw [hu] at hs
    cases hs
  | ok t =>
    rw [hu] at hs
    cases hs
    obtain ⟨name, rfl, hname⟩ := Store.eq_of_update hu
    have hrows : store.rows.map (Store.writing name a.contact)
        = store.rows.map (·.written name a.contact) :=
      List.map_congr_left fun row hrow => if_pos (beq_iff_eq.mpr (hown row hrow))
    refine ⟨name, by rw [hrows], fun hne => hname (Store.holds_iff.mpr ?_)⟩
    obtain ⟨row, hrow⟩ := List.exists_mem_of_ne_nil _ hne
    exact ⟨row, hrow, hown row hrow⟩

theorem exists_save_eq (a : Affairs) : ∃ filed, a.save.2 = { a with filed := filed } := by
  rcases a.save_cases with ⟨_, filed, hsaved, _⟩ | ⟨_, _, hfailed⟩
  · exact ⟨filed, congrArg Prod.snd hsaved⟩
  · exact ⟨a.filed, congrArg Prod.snd hfailed⟩

theorem addresses_save (a : Affairs) :
    a.save.2.filed.map (·.rows.map Row.address) = a.filed.map (·.rows.map Row.address) := by
  unfold save
  split
  · rfl
  · next store hfiled =>
    split
    · cases hu : store.update a.contact with
      | error fault => rfl
      | ok t => rw [hfiled, Option.map_some, Option.map_some, (Store.update_eq_ok hu).2.2]
    · rfl

@[simp]
theorem contact_save (a : Affairs) : a.save.2.contact = a.contact := by
  obtain ⟨_, h⟩ := a.exists_save_eq
  rw [h]

@[simp]
theorem listed_save (a : Affairs) : a.save.2.listed = a.listed := by
  obtain ⟨_, h⟩ := a.exists_save_eq
  rw [h]

@[simp]
theorem asked_save (a : Affairs) : a.save.2.asked = a.asked := by
  obtain ⟨_, h⟩ := a.exists_save_eq
  rw [h]

/-! ### Presence -/

def setPresence (a : Affairs) (presence : Presence) : Except Fault Unit × Affairs :=
  (a.withContact { a.contact with presence := presence }).save

@[simp]
theorem contact_setPresence (a : Affairs) (p : Presence) :
    (a.setPresence p).2.contact = { a.contact with presence := p } :=
  contact_save _

@[simp]
theorem listed_setPresence (a : Affairs) (p : Presence) : (a.setPresence p).2.listed = a.listed :=
  listed_save _

@[simp]
theorem asked_setPresence (a : Affairs) (p : Presence) : (a.setPresence p).2.asked = a.asked :=
  asked_save _

theorem setPresence_eq_ok_iff {a : Affairs} {p : Presence} :
    (a.setPresence p).1 = .ok () ↔ a.CanFile a.contact :=
  save_eq_ok_iff

theorem canFile_setPresence {a : Affairs} {p : Presence} {c : Contact} :
    (a.setPresence p).2.CanFile c ↔ a.CanFile c :=
  canFile_save

def comeBack (a : Affairs) : Except Fault Unit × Affairs :=
  if a.contact.presence = .offline then a.setPresence .online else (.ok (), a)

@[simp]
theorem contact_comeBack (a : Affairs) : a.comeBack.2.contact = a.contact.online := by
  unfold comeBack
  split
  · exact contact_setPresence a .online
  · next hp => exact (Contact.online_of_ne_offline hp).symm

@[simp]
theorem listed_comeBack (a : Affairs) : a.comeBack.2.listed = a.listed := by
  unfold comeBack
  split
  · exact listed_setPresence a .online
  · rfl

@[simp]
theorem asked_comeBack (a : Affairs) : a.comeBack.2.asked = a.asked := by
  unfold comeBack
  split
  · exact asked_setPresence a .online
  · rfl

theorem comeBack_eq_ok_iff {a : Affairs} :
    a.comeBack.1 = .ok () ↔ (a.contact.presence = .offline → a.CanFile a.contact) := by
  unfold comeBack
  split
  · next hoff => exact setPresence_eq_ok_iff.trans ⟨fun hcan _ => hcan, fun hcan => hcan hoff⟩
  · next hon => exact ⟨fun _ hoff => absurd hoff hon, fun _ => rfl⟩

theorem canFile_comeBack {a : Affairs} {c : Contact} : a.comeBack.2.CanFile c ↔ a.CanFile c := by
  unfold comeBack
  split
  · exact canFile_setPresence
  · rfl

theorem addresses_comeBack (a : Affairs) :
    a.comeBack.2.filed.map (·.rows.map Row.address) = a.filed.map (·.rows.map Row.address) := by
  unfold comeBack
  split
  · exact addresses_save _
  · rfl

/-! ### Taking in a feed -/

/-- Save the contact if it was renamed or has news. -/
def record (a : Affairs) (changed : Bool) : Except Fault Unit × Affairs :=
  if changed then a.save else (.ok (), a)

/-- Take in a feed, as far as nobody has to be told. -/
def takeIn (a : Affairs) (feed : Feed) : Except Fault Unit × Affairs :=
  match a.comeBack with
  | (.error fault, a) => (.error fault, a)
  | (.ok (), a) =>
    match feed.news a.contact.marker with
    | .error fault => (.error fault, a.withContact { a.contact with name := feed.title })
    | .ok news =>
      (a.withContact (a.contact.takingIn feed news.fresh)).record
        (!feed.title.same a.contact.name || news.fresh.isSome)

theorem takeIn_of_stuck {a b : Affairs} {fault : Fault} (hback : a.comeBack = (.error fault, b))
    (feed : Feed) : a.takeIn feed = (.error fault, b) := by
  unfold takeIn
  rw [hback]

theorem comeBack_of_takeIn {a : Affairs} {feed : Feed} (hok : (a.takeIn feed).1 = .ok ()) :
    a.comeBack.1 = .ok () := by
  rcases hback : a.comeBack with ⟨fault | _, b⟩
  · rw [takeIn_of_stuck hback] at hok
    cases hok
  · rfl

theorem takeIn_of_back {a : Affairs} (hback : a.comeBack.1 = .ok ()) (feed : Feed) :
    a.takeIn feed = match feed.news a.contact.marker with
      | .error fault =>
        (.error fault, a.comeBack.2.withContact { a.contact.online with name := feed.title })
      | .ok news => (a.comeBack.2.withContact (a.contact.takingIn feed news.fresh)).record
          (!feed.title.same a.contact.name || news.fresh.isSome) := by
  have hcontact := a.contact_comeBack
  unfold takeIn
  rcases hcome : a.comeBack with ⟨fault | _, b⟩
  · rw [hcome] at hback
    cases hback
  · rw [hcome] at hcontact
    dsimp only at hcontact ⊢
    rw [hcontact]
    rfl

theorem takeIn_of_no_news {a : Affairs} {feed : Feed} {fault : Fault}
    (hback : a.comeBack.1 = .ok ()) (hnews : feed.news a.contact.marker = .error fault) :
    a.takeIn feed
      = (.error fault, a.comeBack.2.withContact { a.contact.online with name := feed.title }) := by
  rw [takeIn_of_back hback, hnews]

theorem takeIn_of_news {a : Affairs} {feed : Feed} {news : News} (hback : a.comeBack.1 = .ok ())
    (hnews : feed.news a.contact.marker = .ok news) :
    a.takeIn feed = (a.comeBack.2.withContact (a.contact.takingIn feed news.fresh)).record
      (!feed.title.same a.contact.name || news.fresh.isSome) := by
  rw [takeIn_of_back hback, hnews]

/-- A feed is taken in exactly when the contact can be brought back online, the feed can tell its
news, and the contact can be saved afterwards if it was renamed or has news. -/
theorem takeIn_eq_ok_iff {a : Affairs} {feed : Feed} :
    (a.takeIn feed).1 = .ok () ↔
      (a.contact.presence = .offline → a.CanFile a.contact) ∧
        ∃ news, feed.news a.contact.marker = .ok news ∧
          ((!feed.title.same a.contact.name || news.fresh.isSome) = true →
            a.CanFile (a.contact.takingIn feed news.fresh)) := by
  rw [← comeBack_eq_ok_iff]
  rcases hback : a.comeBack with ⟨fault | _, b⟩
  · rw [takeIn_of_stuck hback]
    exact ⟨fun hok => (nomatch hok), fun ⟨hok, _⟩ => nomatch hok⟩
  · have hcome : a.comeBack.1 = .ok () := congrArg Prod.fst hback
    cases hnews : feed.news a.contact.marker with
    | error fault =>
      rw [takeIn_of_no_news hcome hnews]
      exact ⟨fun hok => (nomatch hok), fun ⟨_, _, hok, _⟩ => nomatch hok⟩
    | ok news =>
      let taken := a.comeBack.2.withContact (a.contact.takingIn feed news.fresh)
      have hsaved : taken.save.1 = .ok () ↔ a.CanFile (a.contact.takingIn feed news.fresh) :=
        save_eq_ok_iff.trans canFile_comeBack
      have hrecorded : (taken.record
            (!feed.title.same a.contact.name || news.fresh.isSome)).1 = .ok () ↔
          ((!feed.title.same a.contact.name || news.fresh.isSome) = true →
            a.CanFile (a.contact.takingIn feed news.fresh)) := by
        unfold record
        split
        · next hchanged =>
          exact ⟨fun hok _ => hsaved.mp hok, fun hcan => hsaved.mpr (hcan hchanged)⟩
        · next hsame => exact ⟨fun _ hchanged => absurd hchanged hsame, fun _ => rfl⟩
      rw [takeIn_of_news hcome hnews, hrecorded]
      constructor
      · intro hcan
        exact ⟨rfl, news, rfl, hcan⟩
      · rintro ⟨_, own, hown, hcan⟩
        obtain rfl := Except.ok.inj hown
        exact hcan

/-- A contact that is back online gets the title of the feed; and taking that in fails and writes
nothing more, or there is nothing to write, or the contact is saved. -/
theorem takeIn_ends {a : Affairs} (hback : a.comeBack.1 = .ok ()) (feed : Feed) :
    ∃ c : Contact, c.identity = a.contact.identity ∧ c.name = feed.title ∧ c.presence = .online ∧
      ((∃ fault, a.takeIn feed = (.error fault, a.comeBack.2.withContact c)) ∨
        (feed.title.same a.contact.name = true ∧
          a.takeIn feed = (.ok (), a.comeBack.2.withContact c)) ∨
        ∃ b, (a.comeBack.2.withContact c).save = (.ok (), b) ∧ a.takeIn feed = (.ok (), b)) := by
  cases hnews : feed.news a.contact.marker with
  | error fault =>
    rw [takeIn_of_no_news hback hnews]
    exact ⟨{ a.contact.online with name := feed.title }, rfl, rfl, rfl, .inl ⟨fault, rfl⟩⟩
  | ok news =>
    rw [takeIn_of_news hback hnews]
    refine ⟨a.contact.takingIn feed news.fresh, rfl, rfl, rfl, ?_⟩
    unfold record
    split
    · rcases hs : (a.comeBack.2.withContact (a.contact.takingIn feed news.fresh)).save
        with ⟨fault | _, b⟩
      · exact .inl ⟨fault, by rw [eq_of_save_error hs]⟩
      · exact .inr (.inr ⟨b, rfl, rfl⟩)
    · next hsame =>
      rw [Bool.or_eq_true, not_or, Bool.not_eq_true', Bool.not_eq_false] at hsame
      exact .inr (.inl ⟨hsame.1, rfl⟩)

theorem listed_takeIn (a : Affairs) (feed : Feed) :
    (a.takeIn feed).2.listed = a.listed ∧ (a.takeIn feed).2.asked = a.asked := by
  have hcome : a.comeBack.2.listed = a.listed ∧ a.comeBack.2.asked = a.asked :=
    ⟨a.listed_comeBack, a.asked_comeBack⟩
  cases hback : a.comeBack.1 with
  | error fault =>
    rw [takeIn_of_stuck (Prod.ext hback rfl) feed]
    exact hcome
  | ok _ =>
    obtain ⟨c, _, _, _, ⟨fault, htaken⟩ | ⟨_, htaken⟩ | ⟨b, hs, htaken⟩⟩ := takeIn_ends hback feed
    all_goals rw [htaken]
    · exact hcome
    · exact hcome
    · obtain ⟨filed, hb⟩ := exists_save_eq (a.comeBack.2.withContact c)
      rw [hs] at hb
      dsimp only at hb ⊢
      rw [hb]
      exact hcome

/-! ### Feeds that are gone -/

def remove (a : Affairs) : Affairs :=
  if a.listed = 0 then a
  else
    { a with
      listed := a.listed - 1
      filed := a.filed.map fun store => match store.delete a.contact.address with
        | .ok (_, store) => store
        | .error _ => store }

theorem contact_remove (a : Affairs) : a.remove.contact = a.contact := by
  unfold remove
  split <;> rfl

theorem asked_remove (a : Affairs) : a.remove.asked = a.asked := by
  unfold remove
  split <;> rfl

theorem listed_remove (a : Affairs) : a.remove.listed = a.listed - 1 := by
  unfold remove
  split
  · next hnone => rw [hnone]
  · rfl

theorem filed_remove (a : Affairs) : ∃ shrink : Store → Store,
    a.remove.filed = a.filed.map shrink ∧
      ∀ store, ∀ row ∈ (shrink store).rows, row ∈ store.rows := by
  unfold remove
  split
  · exact ⟨id, (Option.map_id' ..).symm, fun _ _ hrow => hrow⟩
  · refine ⟨_, rfl, fun store row hrow => ?_⟩
    split at hrow
    · next hdelete =>
      rw [Store.eq_of_delete hdelete] at hrow
      exact (List.mem_filter.mp hrow).1
    · exact hrow

def ask (a : Affairs) (answer : Option (Except Fault Bool)) : Affairs :=
  match answer with
  | none => a
  | some answer =>
    let a := { a with asked := a.asked + 1 }
    match answer with
    | .ok true => a.remove
    | _ => a

def recover (a : Affairs) (answer : Option (Except Fault Bool)) : Affairs :=
  if a.contact.presence = .offline then a
  else
    match a.setPresence .offline with
    | (.error _, a) => a
    | (.ok (), a) => a.ask answer

def look (a : Affairs) (found : Except Fault Feed) (answer : Option (Except Fault Bool)) :
    Affairs :=
  match found with
  | .ok feed => (a.takeIn feed).2
  | .error (.gone _) => a.recover answer
  | .error _ => a

end Affairs

end Newswire

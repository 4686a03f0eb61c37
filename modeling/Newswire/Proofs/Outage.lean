import Newswire.Proofs.Posting
import Newswire.Proofs.Restart.Delivery

/-!
One question for each outage. Whenever the contact at an address goes from online to offline its
feed was found gone and the user is asked, and never else. What has gone offline stays so, in the
list and in the table, until a feed is found at the address; so between two questions about it there
was one, also when lists were begun anew.
-/

namespace Newswire.Newsroom

variable {s t : Newsroom} {store : Store} {a : Option String} {h : Handle}

/-! ### Questions and outages -/

def asksAt (s : Newsroom) (a : Option String) : Entry → Bool
  | .asked h _ _ => (s.contact h).address == a
  | _ => false

/-- How often the user has been asked about contacts at an address. -/
def prompts (s : Newsroom) (a : Option String) : Nat :=
  s.trace.countP (s.asksAt a)

/-- From one newsroom to another the contact at an address went from online to offline, be it the
same or one that was loaded in its place. -/
def GoesDown (a : Option String) (s t : Newsroom) : Prop :=
  ∃ h ∈ s.roster, (s.contact h).address = a ∧ (s.contact h).presence = .online ∧
    ((t.contact h).presence = .offline ∨
      ∃ i ∈ t.roster, (t.contact i).address = a ∧ (t.contact i).presence = .offline)

instance : Decidable (GoesDown a s t) :=
  inferInstanceAs (Decidable (∃ h ∈ s.roster, (s.contact h).address = a ∧
    (s.contact h).presence = .online ∧ ((t.contact h).presence = .offline ∨
      ∃ i ∈ t.roster, (t.contact i).address = a ∧ (t.contact i).presence = .offline)))

/-- How often the contact at an address goes from online to offline in some turns. -/
def outages (a : Option String) : Newsroom → List Turn → Nat
  | _, [] => 0
  | s, turn :: rest => (if GoesDown a s (s.pass turn) then 1 else 0) + outages a (s.pass turn) rest

/-- The turn finds this of the feed at an address. -/
def Gets (a : Option String) (s : Newsroom) (turn : Turn) (found : Except Fault Feed) : Prop :=
  ∃ h ∈ s.roster, (s.contact h).address = a ∧ turn.act.finds turn.world s h = some found

/-- A turn seeks news of listed contacts, there being a user to ask, or begins a new list; and the
store does not fail when it is to be written that the contact at an address is back online, or
offline. -/
structure Regular (a : Option String) (s : Newsroom) (turn : Turn) : Prop where
  kind : turn.act.Seeks ∨ turn.act.Renews
  listed : ∀ h ∈ turn.act.about s, h ∈ s.roster
  user : turn.world.ask.isSome = true
  back : ∀ h ∈ s.roster, (s.contact h).address = a → (s.contact h).presence = .offline → ∀ feed,
    turn.act.finds turn.world s h = some (.ok feed) →
      s.CanSave { s.contact h with presence := .online }
  down : ∀ h ∈ s.roster, (s.contact h).address = a → (s.contact h).presence = .online → ∀ why,
    turn.act.finds turn.world s h = some (.error (.gone why)) →
      s.CanSave { s.contact h with presence := .offline }

/-- The store can be read, and a contact at an address is stored there with its presence. -/
structure Posted (a : Option String) (s : Newsroom) (store : Store) : Prop where
  orderly : s.Orderly
  backed : s.store = some store
  isOpen : store.isOpen = true
  sound : store.Sound
  kept : ∀ row ∈ store.rows, some row.address = a → row.persistent = true
  listed : ∀ h ∈ s.roster, (s.contact h).address = a → (s.contact h).persistent = true ∧
    ∀ row ∈ store.rows, some row.address = a → row.presence = (s.contact h).presence.word

/-- Nobody at an address is online, neither in the list nor in the table. -/
structure Off (a : Option String) (s : Newsroom) : Prop where
  listed : ∀ h ∈ s.roster, (s.contact h).address = a → (s.contact h).presence = .offline
  filed : ∀ store, s.store = some store → ∀ row ∈ store.rows, some row.address = a →
    row.presence = Presence.offline.word

/-- What a turn does about the contact at an address. -/
structure Step (a : Option String) (s : Newsroom) (turn : Turn) (t : Newsroom) : Prop where
  prompts : t.prompts a = s.prompts a + if GoesDown a s t then 1 else 0
  gone : GoesDown a s t → ∃ why, Gets a s turn (.error (.gone why))
  off : GoesDown a s t → Off a t
  still : Off a s → (∀ feed, ¬ Gets a s turn (.ok feed)) → Off a t

theorem Off.not_goesDown (hs : Off a s) (t : Newsroom) : ¬ GoesDown a s t := by
  rintro ⟨h, hh, ha, hon, _⟩
  rw [hs.listed h hh ha] at hon
  cases hon

theorem Step.of_not_goesDown {turn : Turn} (hup : ¬ GoesDown a s t)
    (hprompts : t.prompts a = s.prompts a)
    (still : Off a s → (∀ feed, ¬ Gets a s turn (.ok feed)) → Off a t) : Step a s turn t where
  prompts := by rw [if_neg hup, hprompts, Nat.add_zero]
  gone hd := absurd hd hup
  off hd := absurd hd hup
  still := still

/-! ### Turns that seek news -/

theorem affairs_posted_iff (hstore : s.store = some store) :
    (s.affairs h).Posted ↔ (s.contact h).persistent = true ∧
      ∀ row ∈ store.rows, some row.address = (s.contact h).address →
        row.persistent = true ∧ row.presence = (s.contact h).presence.word := by
  have hfiled : (s.affairs h).filed = some (store.only (s.contact h).address) := by
    rw [affairs, hstore, Option.map_some]
  constructor
  · rintro ⟨hp, _, hsome, hrows⟩
    obtain rfl := Option.some.inj (hfiled.symm.trans hsome)
    refine ⟨hp, fun row hrow ha => ?_⟩
    have hposts := hrows row (Store.mem_rows_only.mpr ⟨hrow, ha⟩)
    exact ⟨hposts.persistent, hposts.presence⟩
  · rintro ⟨hp, hrows⟩
    refine ⟨hp, _, hfiled, fun row hrow => ?_⟩
    obtain ⟨hrow, ha⟩ := Store.mem_rows_only.mp hrow
    exact ⟨ha, (hrows row hrow ha).1, (hrows row hrow ha).2⟩

theorem setPresence_of_canSave {p : Presence}
    (hs : s.CanSave { s.contact h with presence := p }) :
    ((s.affairs h).setPresence p).1 = .ok () :=
  Affairs.setPresence_eq_ok_iff.mpr ((canFile_affairs_iff rfl).mpr (hs.presence _))

theorem comeBack_of_canSave (hs : (s.contact h).presence = .offline →
    s.CanSave { s.contact h with presence := .online }) : (s.affairs h).comeBack.1 = .ok () :=
  Affairs.comeBack_eq_ok_iff.mpr fun hoff =>
    (canFile_affairs_iff rfl).mpr ((hs hoff).presence (s.contact h).presence)

theorem exists_prompts_of_sparing {hs : List Handle} {feeds : List (Handle × Option String)}
    (hspared : Sparing hs feeds s t) (a : Option String) :
    ∃ more, t.trace = s.trace ++ more ∧ (∀ entry ∈ more, entry.AsksOf hs) ∧
      t.prompts a = s.prompts a + more.countP (s.asksAt a) := by
  obtain ⟨more, htrace, _, hasks⟩ := hspared.trace
  have hsame : t.asksAt a = s.asksAt a := by
    funext entry
    cases entry with
    | asked i question answer => exact congrArg (· == a) (hspared.address i)
    | _ => rfl
  refine ⟨more, htrace, hasks, ?_⟩
  rw [prompts, hsame, htrace, List.countP_append, prompts]

theorem prompts_of_sparing_others {hs : List Handle} {feeds : List (Handle × Option String)}
    (hspared : Sparing hs feeds s t) (hothers : ∀ i ∈ hs, (s.contact i).address ≠ a) :
    t.prompts a = s.prompts a := by
  obtain ⟨more, _, hasks, hprompts⟩ := exists_prompts_of_sparing hspared a
  have hnone : more.countP (s.asksAt a) = 0 := List.countP_eq_zero.mpr fun entry he => by
    have hentry := hasks entry he
    cases entry with
    | asked i question answer =>
      show ¬ ((s.contact i).address == a) = true
      rw [beq_iff_eq]
      exact hothers i hentry
    | _ => exact Bool.false_ne_true
  rw [hprompts, hnone, Nat.add_zero]

structure Alone (a : Option String) (s : Newsroom) (h : Handle) : Prop where
  listed : h ∈ s.roster
  address : (s.contact h).address = a
  eq : ∀ i ∈ s.roster, (s.contact i).address = a → i = h

namespace Alone

variable {hs : List Handle} {feeds : List (Handle × Option String)}

theorem eq_of_sparing (halone : Alone a s h) (hspared : Sparing hs feeds s t) {i : Handle}
    (hi : i ∈ t.roster) (hia : (t.contact i).address = a) : i = h :=
  halone.eq i (hspared.roster.subset hi) ((hspared.address i).symm.trans hia)

theorem goesDown_iff (halone : Alone a s h) (hspared : Sparing hs feeds s t) :
    GoesDown a s t ↔ (s.contact h).presence = .online ∧ (t.contact h).presence = .offline := by
  constructor
  · rintro ⟨i, hi, hia, hon, hoff | ⟨j, hj, hja, hoff⟩⟩
    · exact halone.eq i hi hia ▸ ⟨hon, hoff⟩
    · exact ⟨halone.eq i hi hia ▸ hon, halone.eq_of_sparing hspared hj hja ▸ hoff⟩
  · exact fun ⟨hon, hoff⟩ => ⟨h, halone.listed, halone.address, hon, .inl hoff⟩

theorem rows (halone : Alone a s h) (hspared : Sparing hs feeds s t) (hstore : t.store = some store)
    (hposted : (t.affairs h).Posted) : ∀ row ∈ store.rows, some row.address = a →
      row.persistent = true ∧ row.presence = (t.contact h).presence.word := by
  have hrows := ((affairs_posted_iff hstore).mp hposted).2
  rwa [(hspared.address h).trans halone.address] at hrows

theorem off (halone : Alone a s h) (hspared : Sparing hs feeds s t) (hstore : t.store = some store)
    (hposted : (t.affairs h).Posted) (hoff : (t.contact h).presence = .offline) : Off a t where
  listed i hi hia := halone.eq_of_sparing hspared hi hia ▸ hoff
  filed own hown row hrow hra := by
    obtain rfl := Option.some.inj (hstore.symm.trans hown)
    rw [← hoff]
    exact (halone.rows hspared hstore hposted row hrow hra).2

theorem prompts (halone : Alone a s h) (hspared : Sparing hs feeds s t)
    (hlisted : ∀ i ∈ hs, i ∈ s.roster) :
    t.prompts a + (s.affairs h).asked = s.prompts a + (t.affairs h).asked := by
  obtain ⟨more, htrace, hasks, hprompts⟩ := exists_prompts_of_sparing hspared a
  have hsame : more.countP (s.asksAt a) = more.countP (Entry.asks h) :=
    List.countP_congr fun entry he => by
      have hentry := hasks entry he
      cases entry with
      | asked i question answer =>
        simp only [asksAt, Entry.asks, beq_iff_eq, decide_eq_true_eq]
        exact ⟨halone.eq i (hlisted i hentry), fun hi => hi ▸ halone.address⟩
      | _ => exact Iff.rfl
  have hasked : (t.affairs h).asked = (s.affairs h).asked + more.countP (Entry.asks h) := by
    simp only [affairs, htrace, List.countP_append]
  omega

theorem step (halone : Alone a s h) {turn : Turn} (hspared : Sparing hs feeds s t)
    (hlisted : ∀ i ∈ hs, i ∈ s.roster) (hstore : t.store = some store)
    (hposted : (t.affairs h).Posted)
    (hmoves : (s.affairs h).Moves (turn.act.finds turn.world s h) (t.affairs h)) :
    Step a s turn t := by
  have hprompts := halone.prompts hspared hlisted
  have hdown := halone.goesDown_iff hspared
  have hoff := halone.off hspared hstore hposted
  cases hmoves with
  | back feed got after asked =>
    have hup : ¬ GoesDown a s t := fun hd => by
      have hpresence := (hdown.mp hd).2.symm.trans after
      cases hpresence
    exact .of_not_goesDown hup (by omega) fun _ hnone =>
      absurd ⟨h, halone.listed, halone.address, got⟩ (hnone feed)
  | down why got before after asked =>
    exact {
      prompts := by rw [if_pos (hdown.mpr ⟨before, after⟩)]; omega
      gone := fun _ => ⟨why, h, halone.listed, halone.address, got⟩
      off := fun _ => hoff after
      still := fun _ _ => hoff after }
  | still none after asked =>
    have hup : ¬ GoesDown a s t := fun hd => by
      obtain ⟨hon, hgone⟩ := hdown.mp hd
      have hpresence := hon.symm.trans (after.symm.trans hgone)
      cases hpresence
    exact .of_not_goesDown hup (by omega) fun hwas _ =>
      hoff (after.trans (hwas.listed h halone.listed halone.address))

end Alone

theorem prompts_of_afresh {cs : List Contact} (hs : s.Orderly) (hafresh : Afresh cs s t)
    (a : Option String) : t.prompts a = s.prompts a := by
  obtain ⟨notes, htrace⟩ := hafresh.trace
  have hnotes : (notes.map Entry.noted).countP (t.asksAt a) = 0 :=
    List.countP_eq_zero.mpr fun entry he => by
      obtain ⟨_, _, rfl⟩ := List.mem_map.mp he
      exact Bool.false_ne_true
  rw [prompts, htrace, List.countP_append, hnotes, Nat.add_zero]
  refine List.countP_congr fun entry he => ?_
  have hentry := hs.asked entry he
  cases entry with
  | asked i question answer =>
    simp only [asksAt, hafresh.contact i (List.mem_range.mp hentry)]
  | _ => exact Iff.rfl

namespace Posted

theorem of_empty (ho : s.Orderly) (hempty : s.roster = []) (hstore : s.store = some store)
    (hopen : store.isOpen = true) (hsound : store.Sound)
    (hkept : ∀ row ∈ store.rows, some row.address = a → row.persistent = true) :
    Posted a s store :=
  ⟨ho, hstore, hopen, hsound, hkept, fun h hh => by
    rw [hempty] at hh
    cases hh⟩

theorem affairs_posted (hs : Posted a s store) (hh : h ∈ s.roster)
    (ha : (s.contact h).address = a) : (s.affairs h).Posted := by
  obtain ⟨hp, hrows⟩ := hs.listed h hh ha
  refine (affairs_posted_iff hs.backed).mpr ⟨hp, fun row hrow hown => ?_⟩
  rw [ha] at hown
  exact ⟨hs.kept row hrow hown, hrows row hrow hown⟩

theorem orderly_pass (hs : Posted a s store) {turn : Turn} (hturn : Regular a s turn) :
    (s.pass turn).Orderly :=
  hs.orderly.act turn.world fun h hh => hs.orderly.known h (hturn.listed h hh)

theorem seek_others (hs : Posted a s store) {turn : Turn} (hseeks : turn.act.Seeks)
    (hturn : Regular a s turn) (hnone : ∀ h ∈ s.roster, (s.contact h).address ≠ a) :
    (∃ store', Posted a (s.pass turn) store') ∧ Step a s turn (s.pass turn) := by
  obtain ⟨feeds, hspared⟩ := sparing_act turn.world hseeks.plain s
  have hspared : Sparing (turn.act.about s) feeds s (s.pass turn) := hspared
  obtain ⟨store', hstore', hst⟩ := hspared.exists_store hs.backed
  have hunlisted : ∀ h ∈ (s.pass turn).roster, ((s.pass turn).contact h).address ≠ a :=
    fun h hh => hspared.address h ▸ hnone h (hspared.roster.subset hh)
  have hothers : ∀ i ∈ turn.act.about s, (s.contact i).address ≠ a :=
    fun i hi => hnone i (hturn.listed i hi)
  have hrows (row : Row) (hrow : row ∈ store'.rows) (hown : some row.address = a) :
      row ∈ store.rows := by
    have honly := hst.only a fun ⟨i, hi, ha⟩ => hothers i hi ha
    have hm : row ∈ (store'.only a).rows := Store.mem_rows_only.mpr ⟨hrow, hown⟩
    rw [honly] at hm
    exact (Store.mem_rows_only.mp hm).1
  have hup : ¬ GoesDown a s (s.pass turn) := fun ⟨h, hh, ha, _⟩ => hnone h hh ha
  refine ⟨⟨store', ?_, hstore', hst.isOpen.trans hs.isOpen, hst.sound hs.sound,
    fun row hrow hown => hs.kept row (hrows row hrow hown) hown,
    fun h hh ha => absurd ha (hunlisted h hh)⟩,
    .of_not_goesDown hup (prompts_of_sparing_others hspared hothers) fun hoff _ =>
      ⟨fun h hh ha => absurd ha (hunlisted h hh), fun own hown row hrow ha => ?_⟩⟩
  · exact hs.orderly_pass hturn
  · obtain rfl := Option.some.inj (hstore'.symm.trans hown)
    exact hoff.filed store hs.backed row (hrows row hrow ha) ha

/-- A turn that seeks news does about an address in the list what it does to the contact that has
it. -/
theorem seek_own (hs : Posted a s store) {turn : Turn} (hseeks : turn.act.Seeks)
    (hturn : Regular a s turn) (hh : h ∈ s.roster) (ha : (s.contact h).address = a) :
    (∃ store', Posted a (s.pass turn) store') ∧ Step a s turn (s.pass turn) := by
  obtain ⟨feeds, hspared⟩ := sparing_act turn.world hseeks.plain s
  have hspared : Sparing (turn.act.about s) feeds s (s.pass turn) := hspared
  obtain ⟨store', hstore', hst⟩ := hspared.exists_store hs.backed
  have halone : Alone a s h := ⟨hh, ha, fun i hi hia =>
    eq_of_address hs.orderly.distinct hi hh (hia.trans ha.symm)⟩
  obtain ⟨n, hafter⟩ := affairs_act hs.orderly.distinct turn.world hseeks hturn.listed hh
  obtain ⟨ask, hask⟩ := Option.isSome_iff_exists.mp hturn.user
  have hanswer : turn.world.answer n (s.contact h).address = some (ask n _) :=
    congrArg (Option.map _) hask
  rw [hanswer] at hafter
  have hafter : (s.pass turn).affairs h = _ := hafter
  obtain ⟨hposted, hmoves⟩ := (hs.affairs_posted hh ha).after
    (fun feed hfound => comeBack_of_canSave fun hoff => hturn.back h hh ha hoff feed hfound)
    (fun why hfound hon => setPresence_of_canSave (hturn.down h hh ha hon why hfound)) _
  rw [← hafter] at hposted hmoves
  refine ⟨⟨store', ?_, hstore', hst.isOpen.trans hs.isOpen, hst.sound hs.sound, ?_, ?_⟩,
    halone.step hspared hturn.listed hstore' hposted hmoves⟩
  · exact hs.orderly_pass hturn
  · exact fun row hrow hra => (halone.rows hspared hstore' hposted row hrow hra).1
  · intro i hi hia
    obtain rfl := halone.eq_of_sparing hspared hi hia
    exact ⟨hposted.persistent,
      fun row hrow hra => (halone.rows hspared hstore' hposted row hrow hra).2⟩

/-! ### Turns that begin a new list -/

theorem exists_row (hs : Posted a s store) {now : Moment} {cs : List Contact}
    (hall : store.all now = .ok cs) (hafresh : Afresh cs s t) (hh : h ∈ t.roster)
    (ha : (t.contact h).address = a) :
    ∃ row ∈ store.rows, some row.address = a ∧ row.Posts (t.contact h) ∧
      (t.contact h).persistent = true := by
  have hm : t.contact h ∈ t.contacts := List.mem_map_of_mem hh
  rw [hafresh.contacts] at hm
  obtain ⟨row, hrow, hreads⟩ := Store.exists_row_of_all hall hm
  have hown : some row.address = a := (Row.address_of_contact hreads).symm.trans ha
  exact ⟨row, hrow, hown, Row.posts_of_contact hreads (hs.kept row hrow hown)⟩

/-- A turn that begins a new list moves nobody, since the presence of each contact was posted. -/
theorem renew (hs : Posted a s store) {turn : Turn} (hrenews : turn.act.Renews)
    (hturn : Regular a s turn) :
    (∃ store', Posted a (s.pass turn) store') ∧ Step a s turn (s.pass turn) := by
  obtain ⟨cs, hall, hafresh⟩ := afresh_of_renews hs.backed hs.isOpen hs.sound hrenews
  have hstore : (s.pass turn).store = some store := hafresh.store.trans hs.backed
  have hup : ¬ GoesDown a s (s.pass turn) := by
    rintro ⟨i, hi, hia, hon, hoff | ⟨j, hj, hja, hoff⟩⟩
    · rw [hafresh.contact i (hs.orderly.known i hi), hon] at hoff
      cases hoff
    · obtain ⟨row, hrow, hra, hposts, _⟩ := hs.exists_row hall hafresh hj hja
      have hpresence := Presence.word_inj
        (((hs.listed i hi hia).2 row hrow hra).symm.trans hposts.presence)
      rw [hon, hoff] at hpresence
      cases hpresence
  refine ⟨⟨store, ?_, hstore, hs.isOpen, hs.sound, hs.kept, fun h hh ha => ?_⟩,
    .of_not_goesDown hup (prompts_of_afresh hs.orderly hafresh a) fun hwas _ =>
      ⟨fun h hh ha => ?_, fun own hown => ?_⟩⟩
  · exact hs.orderly_pass hturn
  · obtain ⟨row, hrow, hra, hposts, hp⟩ := hs.exists_row hall hafresh hh ha
    refine ⟨hp, fun other hother hoa => ?_⟩
    obtain rfl : other = row := List.inj_on_of_nodup_map hs.sound.unique hother hrow
      (Option.some.inj (hoa.trans hra.symm))
    exact hposts.presence
  · obtain ⟨row, hrow, hra, hposts, _⟩ := hs.exists_row hall hafresh hh ha
    exact Presence.word_inj (hposts.presence.symm.trans (hwas.filed store hs.backed row hrow hra))
  · exact hwas.filed own (hafresh.store.symm.trans hown)

theorem pass (hs : Posted a s store) {turn : Turn} (hturn : Regular a s turn) :
    (∃ store', Posted a (s.pass turn) store') ∧ Step a s turn (s.pass turn) := by
  rcases hturn.kind with hseeks | hrenews
  · by_cases hlisted : ∃ h ∈ s.roster, (s.contact h).address = a
    · obtain ⟨h, hh, ha⟩ := hlisted
      exact hs.seek_own hseeks hturn hh ha
    · exact hs.seek_others hseeks hturn fun h hh ha => hlisted ⟨h, hh, ha⟩
  · exact hs.renew hrenews hturn

/-! ### Courses -/

theorem course (hs : Posted a s store) {turns : List Turn}
    (hturns : s.Throughout (Regular a) turns) :
    (∃ store', Posted a (s.course turns) store') ∧
      (s.course turns).prompts a = s.prompts a + outages a s turns := by
  induction turns generalizing s store with
  | nil => exact ⟨⟨store, hs⟩, rfl⟩
  | cons turn rest ih =>
    obtain ⟨⟨_, hpassed⟩, hstep⟩ := hs.pass hturns.1
    obtain ⟨hend, hcount⟩ := ih hpassed hturns.2
    refine ⟨hend, hcount.trans ?_⟩
    rw [hstep.prompts, outages, Nat.add_assoc]

theorem prompts_of_no_feed (hs : Posted a s store) {turns : List Turn}
    (hturns : s.Throughout (Regular a) turns)
    (hnone : s.Throughout (fun t turn => ∀ feed, ¬ Gets a t turn (.ok feed)) turns) :
    (s.course turns).prompts a ≤ s.prompts a + 1 ∧
      (Off a s → (s.course turns).prompts a = s.prompts a) := by
  induction turns generalizing s store with
  | nil => exact ⟨Nat.le_succ _, fun _ => rfl⟩
  | cons turn rest ih =>
    obtain ⟨⟨_, hpassed⟩, hstep⟩ := hs.pass hturns.1
    obtain ⟨honce, hnever⟩ := ih hpassed hturns.2 hnone.2
    have hprompts := hstep.prompts
    have hrest : (s.course (turn :: rest)).prompts a = ((s.pass turn).course rest).prompts a := rfl
    rw [hrest]
    by_cases hdown : GoesDown a s (s.pass turn)
    · rw [if_pos hdown] at hprompts
      have hquiet := hnever (hstep.off hdown)
      exact ⟨by omega, fun hwas => absurd hdown (hwas.not_goesDown _)⟩
    · rw [if_neg hdown] at hprompts
      refine ⟨by omega, fun hwas => ?_⟩
      rw [hnever (hstep.still hwas hnone.1), hprompts, Nat.add_zero]

theorem at_prefix (hs : Posted a s store) {past rest : List Turn}
    (hturns : s.Throughout (Regular a) (past ++ rest)) :
    ∃ store', Posted a (s.course past) store' ∧ (s.course past).Throughout (Regular a) rest := by
  obtain ⟨hpast, hrest⟩ := throughout_append.mp hturns
  obtain ⟨⟨store', hposted⟩, _⟩ := hs.course hpast
  exact ⟨store', hposted, hrest⟩

theorem no_feed_of_prompt (hs : Posted a s store) {turn : Turn} (hturn : Regular a s turn)
    (hasked : s.prompts a < (s.pass turn).prompts a) (feed : Feed) :
    ¬ Gets a s turn (.ok feed) := by
  obtain ⟨_, hstep⟩ := hs.pass hturn
  have hdown : GoesDown a s (s.pass turn) := by
    by_contra hup
    have hprompts := hstep.prompts
    rw [if_neg hup] at hprompts
    omega
  obtain ⟨why, h, hh, ha, hgone⟩ := hstep.gone hdown
  rintro ⟨i, hi, hia, hfound⟩
  obtain rfl := eq_of_address hs.orderly.distinct hi hh (hia.trans ha.symm)
  rw [hgone] at hfound
  cases hfound

/-- Between two turns in which the user is asked a feed is found at the address. -/
theorem exists_feed_between (hs : Posted a s store) {first second : Turn} {between : List Turn}
    (hturns : s.Throughout (Regular a) (first :: (between ++ [second])))
    (hfirst : s.prompts a < (s.pass first).prompts a)
    (hsecond : (s.course (first :: between)).prompts a
      < ((s.course (first :: between)).pass second).prompts a) :
    ∃ before turn after feed, between = before ++ turn :: after ∧
      Gets a (s.course (first :: before)) turn (.ok feed) := by
  by_contra hno
  have hnone : (s.pass first).Throughout (fun t turn => ∀ feed, ¬ Gets a t turn (.ok feed))
      between := throughout_iff.mpr fun before turn after hsplit feed hgets =>
    hno ⟨before, turn, after, feed, hsplit, hgets⟩
  obtain ⟨_, hpassed⟩ := (hs.pass hturns.1).1
  obtain ⟨hbetween, hlast⟩ := throughout_append.mp hturns.2
  obtain ⟨⟨_, hended⟩, hcount⟩ := hpassed.course hbetween
  have hwhole := (hs.prompts_of_no_feed hturns ⟨hs.no_feed_of_prompt hturns.1 hfirst,
    throughout_append.mpr ⟨hnone, hended.no_feed_of_prompt hlast.1 hsecond, trivial⟩⟩).1
  have hend : s.course (first :: (between ++ [second]))
      = (s.course (first :: between)).pass second := course_append s (first :: between) [second]
  have hmid : s.course (first :: between) = (s.pass first).course between := rfl
  rw [hend, hmid] at hwhole
  rw [hmid] at hsecond
  omega

end Posted

/-- In every course of looks, sweeps, messages, reports of feeds that are gone and new lists over
the same store, the user is asked about the contact at an address just as often as it goes from
online to offline, and it does so only when its feed was found gone. As long as no feed is found
there, he is asked once at most; so between two questions there was one. -/
theorem one_question_per_outage (hs : Posted a s store) {turns : List Turn}
    (hturns : s.Throughout (Regular a) turns) :
    (s.course turns).prompts a = s.prompts a + outages a s turns ∧
      (∀ past turn rest, turns = past ++ turn :: rest →
        GoesDown a (s.course past) ((s.course past).pass turn) →
          ∃ why, Gets a (s.course past) turn (.error (.gone why))) ∧
      (∀ past stretch rest, turns = past ++ (stretch ++ rest) →
        (∀ before turn after, stretch = before ++ turn :: after → ∀ feed,
          ¬ Gets a (s.course (past ++ before)) turn (.ok feed)) →
        (s.course (past ++ stretch)).prompts a ≤ (s.course past).prompts a + 1) ∧
      ∀ past first between second rest, turns = past ++ first :: (between ++ second :: rest) →
        (s.course past).prompts a < (s.course (past ++ [first])).prompts a →
        (s.course (past ++ first :: between)).prompts a
          < (s.course (past ++ first :: (between ++ [second]))).prompts a →
        ∃ before turn after feed, between = before ++ turn :: after ∧
          Gets a (s.course (past ++ first :: before)) turn (.ok feed) := by
  refine ⟨(hs.course hturns).2, ?_, ?_, ?_⟩
  · rintro past turn rest rfl hdown
    obtain ⟨_, hposted, hrest⟩ := hs.at_prefix hturns
    exact (hposted.pass hrest.1).2.gone hdown
  · rintro past stretch rest rfl hnone
    obtain ⟨_, hposted, hrest⟩ := hs.at_prefix hturns
    simp only [course_append] at hnone ⊢
    exact (hposted.prompts_of_no_feed (throughout_append.mp hrest).1
      (throughout_iff.mpr hnone)).1
  · rintro past first between second rest rfl hfirst hsecond
    obtain ⟨_, hposted, hrest⟩ := hs.at_prefix hturns
    have hsplit : first :: (between ++ second :: rest)
        = (first :: (between ++ [second])) ++ rest := by
      rw [List.cons_append, List.append_assoc, List.singleton_append]
    rw [hsplit, throughout_append] at hrest
    have hend : first :: (between ++ [second]) = (first :: between) ++ [second] := rfl
    rw [hend] at hsecond
    simp only [course_append] at hfirst hsecond ⊢
    exact hposted.exists_feed_between hrest.1 hfirst hsecond

def vanished : Outside :=
  { Outside.showing (Feed.bare []) with
    fetch := fun _ => .error (.gone "404")
    ask := some fun _ _ => .ok false }

/-- A feed that is gone is asked about once, also when a new list is begun in between. -/
theorem asked_once_across_restart :
    let start : Newsroom := { bare with store := some ⟨[plainRow "a" "Old"], 1, true⟩ }
    let turns : List Turn := [⟨vanished, .restart bare.clockwork⟩, ⟨vanished, .check 0 false⟩,
      ⟨vanished, .restart bare.clockwork⟩, ⟨vanished, .sweep⟩]
    (start.course turns).prompts (some "a") = 1 := by
  intro start turns
  have hsound : (⟨[plainRow "a" "Old"], 1, true⟩ : Store).Sound :=
    ⟨List.nodup_singleton _, fun row hrow => List.mem_singleton.mp hrow ▸ ⟨vanished.now, _, rfl⟩⟩
  have hstart : start.Reachable := .start fun st hst => Option.some.inj hst ▸ hsound.unique
  have hposted : Posted (some "a") start ⟨[plainRow "a" "Old"], 1, true⟩ :=
    .of_empty hstart.orderly rfl rfl rfl hsound fun row hrow _ => List.mem_singleton.mp hrow ▸ rfl
  have hrestart (s : Newsroom) : Regular (some "a") s ⟨vanished, .restart bare.clockwork⟩ :=
    ⟨.inr trivial, fun h hh => (nomatch hh), rfl, fun h _ _ _ feed hfound => (nomatch hfound),
      fun h _ _ _ why hfound => nomatch hfound⟩
  have hturns : start.Throughout (Regular (some "a")) turns := by
    refine ⟨hrestart _, ?_, hrestart _, ?_, trivial⟩
    · refine ⟨.inl trivial, fun h hh => hh, rfl, fun h hh _ _ feed hfound => ?_,
        fun h hh _ _ why _ store hstore _ => ?_⟩
      · obtain rfl := List.mem_singleton.mp hh
        cases hfound
      · obtain rfl := List.mem_singleton.mp hh
        cases hstore
        exact ⟨_, rfl⟩
    · refine ⟨.inl trivial, fun h hh => hh, rfl, fun h hh _ _ feed hfound => ?_,
        fun h hh _ hon why _ => ?_⟩
      · obtain rfl := List.mem_singleton.mp hh
        cases hfound
      · -- the contact is offline since the second turn, and was loaded so
        obtain rfl := List.mem_singleton.mp hh
        cases hon
  rw [(one_question_per_outage hposted hturns).1]
  decide +kernel

end Newswire.Newsroom

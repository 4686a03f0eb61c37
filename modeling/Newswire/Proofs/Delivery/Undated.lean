import Newswire.Proofs.Delivery.Runs

/-!
Exactly once, without dates. A feed without dates moves along an archive and shows a stretch of it
at a time, newest first. All that is remembered is the name of the newest item that was shown; since
stretches only move forward, the items before that name are those beyond all earlier stretches,
whether or not the stretch still holds the name.
-/

namespace Newswire

/-! ### Stretches of an archive -/

/-- Items in the order in which they appear, told apart by their guids whatever the case of their
letters. -/
structure Archive where
  item : Nat → Item
  guid : Nat → String
  guid_item : ∀ j, (item j).guid = some (.text (guid j))
  distinct : ∀ i j, Text.lower (guid i) = Text.lower (guid j) → i = j
  published : ∀ j, (item j).published.isSome = true
  renders : ∀ j, (item j).Renders

def countdown (low : Nat) : Nat → List Nat
  | 0 => []
  | n + 1 => if low ≤ n then n :: countdown low n else []

theorem mem_countdown {low high j : Nat} : j ∈ countdown low high ↔ low ≤ j ∧ j < high := by
  induction high with
  | zero => exact ⟨(nomatch ·), fun h => by omega⟩
  | succ n ih =>
    rw [countdown]
    split
    · rw [List.mem_cons, ih]
      omega
    · exact ⟨(nomatch ·), fun h => by omega⟩

theorem countdown_of_lt {low high : Nat} (h : low < high) :
    ∃ rest, countdown low high = (high - 1) :: rest := by
  obtain ⟨n, rfl⟩ := Nat.exists_eq_succ_of_ne_zero (Nat.ne_of_gt (Nat.zero_lt_of_lt h))
  exact ⟨countdown low n, if_pos (Nat.le_of_lt_succ h)⟩

theorem takeWhile_countdown {low high n : Nat} (h : n < high) :
    (countdown low high).takeWhile (fun j => !(n == j)) = (countdown low high).filter (n + 1 ≤ ·) := by
  induction high with
  | zero => rfl
  | succ m ih =>
    rw [countdown]
    split
    · by_cases hn : n = m
      · subst hn
        have hbelow : (countdown low n).filter (n + 1 ≤ ·) = [] := by
          rw [List.filter_eq_nil_iff]
          intro j hj
          have := (mem_countdown.mp hj).2
          simp only [decide_eq_true_eq]
          omega
        rw [List.takeWhile_cons, List.filter_cons, hbelow, beq_self_eq_true,
          decide_eq_false (by omega)]
        rfl
      · have hlt : n + 1 ≤ m := by omega
        rw [List.takeWhile_cons, List.filter_cons, ih hlt, beq_eq_false_iff_ne.mpr hn,
          decide_eq_true hlt]
        rfl
    · rfl

namespace Archive

variable (a : Archive)

/-- The marker of someone who has been told of the first `top` items. -/
def marker : Nat → Option Marker
  | 0 => none
  | n + 1 => some (.token (.text (a.guid n)))

theorem isNamed_item (i j : Nat) : (a.item j).isNamed (.text (a.guid i)) = (i == j) := by
  simp only [Item.isNamed, a.guid_item]
  by_cases h : i = j
  · rw [h, beq_self_eq_true, beq_self_eq_true]
  · rw [beq_eq_false_iff_ne.mpr h, beq_eq_false_iff_ne.mpr fun heq => h (a.distinct i j heq)]

/-- A feed that shows items of the archive, one of them without a date if there are any. -/
structure Shows (feed : Feed) (numbers : List Nat) : Prop where
  items : feed.items = numbers.map a.item
  undated : numbers ≠ [] → ∃ j ∈ numbers, (a.item j).date? = none

variable {a} {feed : Feed} {numbers : List Nat} {low high top : Nat}

theorem Shows.not_dated (hf : a.Shows feed numbers) (hne : numbers ≠ []) : ¬ feed.Dated := by
  intro hd
  obtain ⟨j, hj, hnone⟩ := hf.undated hne
  have hsome := hd (a.item j) (hf.items ▸ List.mem_map_of_mem hj)
  rw [hnone] at hsome
  cases hsome

theorem Shows.sound (hf : a.Shows feed numbers) (top : Nat) : feed.Sound (a.marker top) := by
  have hitem : ∀ item ∈ feed.items, ∃ j, a.item j = item := fun item hi => by
    obtain ⟨j, _, hj⟩ := List.mem_map.mp (hf.items ▸ hi)
    exact ⟨j, hj⟩
  have hmoments : feed.Dated → feed.moments = [] := fun hd => by
    have hnil : numbers = [] := Decidable.byContradiction fun hne => hf.not_dated hne hd
    rw [Feed.moments, hf.items, hnil]
    rfl
  refine ⟨⟨fun item hi => ?_, fun _ item hi => ?_, fun hd m hm => ?_, fun hd _ _ m hm => ?_,
    fun _ token htoken => ?_⟩, fun item hi => ?_⟩
  · obtain ⟨j, rfl⟩ := hitem item hi
    exact a.published j
  · obtain ⟨j, rfl⟩ := hitem item hi
    exact ⟨a.guid j, a.guid_item j⟩
  · rw [hmoments hd] at hm
    cases hm
  · rw [hmoments hd] at hm
    cases hm
  · cases top with
    | zero => cases htoken
    | succ n =>
      cases htoken
      exact ⟨_, rfl⟩
  · obtain ⟨j, rfl⟩ := hitem item hi
    exact a.renders j

/-- What is new in a stretch that does not end before the items that were told. -/
theorem Shows.selection_eq (hf : a.Shows feed (countdown low high)) (htop : low < high → top ≤ high) :
    feed.selection (a.marker top) = ((countdown low high).filter (top ≤ ·)).map a.item := by
  cases top with
  | zero =>
    have hall : (countdown low high).filter (0 ≤ ·) = countdown low high :=
      List.filter_eq_self.mpr fun j _ => decide_eq_true (Nat.zero_le j)
    rw [hall, ← hf.items]
    rfl
  | succ n =>
    by_cases hne : countdown low high = []
    · have hitems := hf.items
      rw [hne] at hitems ⊢
      have hnone := Feed.selection_subset feed (a.marker (n + 1))
      rw [hitems] at hnone
      exact List.eq_nil_of_subset_nil hnone
    · obtain ⟨j, hj⟩ := List.exists_mem_of_ne_nil _ hne
      have hlt : low < high := by
        have := mem_countdown.mp hj
        omega
      rw [marker, Feed.selection, if_neg (hf.not_dated hne), hf.items, List.takeWhile_map,
        ← takeWhile_countdown (htop hlt)]
      refine congrArg (List.map a.item) (congrArg (List.takeWhile · _) (funext fun i => ?_))
      simp only [Function.comp_apply, isNamed_item]

theorem Shows.newest_eq (hf : a.Shows feed (countdown low high)) (hlt : low < high) {m : Marker}
    (hm : feed.Newest (some m)) : some m = a.marker high := by
  obtain ⟨rest, hrest⟩ := countdown_of_lt hlt
  cases m with
  | date date => exact absurd hm.1 (hf.not_dated (hrest ▸ List.cons_ne_nil _ _))
  | token token =>
    obtain ⟨_, _, first, others, hitems, hguid⟩ := hm
    rw [hf.items, hrest, List.map_cons, List.cons.injEq] at hitems
    rw [← hitems.1, a.guid_item, Option.some.injEq] at hguid
    obtain ⟨n, rfl⟩ := Nat.exists_eq_succ_of_ne_zero (Nat.ne_of_gt (Nat.zero_lt_of_lt hlt))
    rw [← hguid]
    rfl

theorem Shows.marker_or (hf : a.Shows feed (countdown low high)) (htop : low < high → top ≤ high)
    {fresh : Option Marker} (hfresh : fresh.isSome = !(feed.selection (a.marker top)).isEmpty)
    (hnewest : ∀ m, fresh = some m → feed.Newest (some m)) :
    fresh.or (a.marker top) = a.marker (max top (if low < high then high else 0)) := by
  rw [hf.selection_eq htop] at hfresh
  by_cases hlt : low < high
  · rw [if_pos hlt, Nat.max_eq_right (htop hlt)]
    cases fresh with
    | some m => exact hf.newest_eq hlt (hnewest m rfl)
    | none =>
      -- nothing was new, so the last item shown had been told already
      have hnil := (Feed.fresh_eq_none_iff hfresh).mp rfl
      have hlast : high - 1 ∈ countdown low high := mem_countdown.mpr (by omega)
      have htold := List.filter_eq_nil_iff.mp (List.map_eq_nil_iff.mp hnil) _ hlast
      rw [decide_eq_true_eq] at htold
      have heq : top = high := by
        have := htop hlt
        omega
      rw [heq]
      rfl
  · rw [if_neg hlt, Nat.max_zero]
    have hnil : countdown low high = [] := by
      refine List.eq_nil_iff_forall_not_mem.mpr fun j hj => ?_
      have := mem_countdown.mp hj
      omega
    rw [hnil] at hfresh
    rw [(Feed.fresh_eq_none_iff hfresh).mpr rfl]
    rfl

end Archive

/-! ### Runs along an archive -/

namespace Newsroom

/-- A stretch of an archive, from number `low` to below `high`; it may hold nothing. -/
structure Window where
  low : Nat
  high : Nat

def Window.numbers (w : Window) : List Nat :=
  countdown w.low w.high

/-- A look with the stretch that the feed shows; there is none when the feed cannot be had. -/
structure Stop extends Visit where
  window : Option Window

namespace Stop

def Serves (a : Archive) (address : Option String) (stop : Stop) : Prop :=
  match stop.window with
  | none => ∃ fault, stop.world.fetch address = .error fault
  | some w => ∃ feed, stop.world.fetch address = .ok feed ∧ a.Shows feed w.numbers

/-- Neither end of the stretch moves back from one stop to another, those that show nothing apart. -/
def Precedes (p q : Stop) : Prop :=
  ∀ v w, p.window = some v → q.window = some w → v.low < v.high → w.low < w.high →
    v.low ≤ w.low ∧ v.high ≤ w.high

/-- The number after the newest item that is shown, or nought. -/
def reach (stop : Stop) : Nat :=
  match stop.window with
  | none => 0
  | some w => if w.low < w.high then w.high else 0

end Stop

/-- The number after the newest item that was shown at some stops, or nought. -/
def top (past : List Stop) : Nat :=
  (past.map Stop.reach).foldr max 0

theorem top_le_iff {past : List Stop} {n : Nat} : top past ≤ n ↔ ∀ stop ∈ past, stop.reach ≤ n := by
  induction past with
  | nil => exact ⟨fun _ _ h => (nomatch h), fun _ => Nat.zero_le n⟩
  | cons stop rest ih =>
    have hcons : top (stop :: rest) = max stop.reach (top rest) := rfl
    rw [hcons, Nat.max_le, ih, List.forall_mem_cons]

theorem top_append (past : List Stop) (stop : Stop) :
    top (past ++ [stop]) = max (top past) stop.reach := by
  have hle (n : Nat) : top (past ++ [stop]) ≤ n ↔ max (top past) stop.reach ≤ n := by
    rw [Nat.max_le, top_le_iff, top_le_iff, List.forall_mem_append, List.forall_mem_singleton]
  exact Nat.le_antisymm ((hle _).mpr (Nat.le_refl _)) ((hle _).mp (Nat.le_refl _))

theorem top_le_of_precedes {past : List Stop} {stop : Stop} (hpast : ∀ p ∈ past, p.Precedes stop)
    {w : Window} (hw : stop.window = some w) (hlt : w.low < w.high) : top past ≤ w.high := by
  refine top_le_iff.mpr fun p hp => ?_
  rw [Stop.reach]
  split
  · exact Nat.zero_le _
  · next v hv =>
    split
    · next hv' => exact (hpast p hp v w hv hw hv' hlt).2
    · exact Nat.zero_le _

/-- The numbers of the items that are told at a stop: those beyond all that was shown before. -/
def Stop.batch (past : List Stop) (stop : Stop) : List Nat :=
  match stop.window with
  | none => []
  | some w => w.numbers.filter (top past ≤ ·)

/-- A stop delivers its batch, or nothing when the feed cannot be had. -/
def Stop.Delivers (a : Archive) (h : Handle) (s : Newsroom) (past : List Stop) (stop : Stop) : Prop :=
  match stop.window with
  | none => Misses h s stop.toVisit
  | some _ => Brings h s stop.toVisit ((stop.batch past).map a.item)

/-- The contact has been told of all that was shown at some stops. -/
def Abreast (a : Archive) (h : Handle) (address : Option String) (past : List Stop) (s : Newsroom) :
    Prop :=
  (s.contact h).address = address ∧ (s.contact h).marker = a.marker (top past)

variable {a : Archive} {h : Handle} {s : Newsroom} {stops : List Stop}

/-- A look at a stretch that moves forward tells of the items beyond all earlier ones and keeps the
contact abreast. -/
theorem Abreast.stop {address : Option String} {past : List Stop} {stop : Stop}
    (habreast : Abreast a h address past s) (hserves : stop.Serves a address)
    (hpast : ∀ p ∈ past, p.Precedes stop)
    (hu : ∀ feed, stop.world.fetch (s.contact h).address = .ok feed →
      Untroubled stop.world s h feed) :
    stop.Delivers a h s past ∧
      Abreast a h address (past ++ [stop]) (look h s stop.toVisit).2 := by
  obtain ⟨haddress, hmarker⟩ := habreast
  rw [← haddress] at hserves
  rw [Stop.Serves] at hserves
  rw [Abreast, Stop.Delivers, top_append, Stop.reach]
  cases hw : stop.window with
  | none =>
    rw [hw] at hserves
    obtain ⟨fault, hfetch⟩ := hserves
    obtain ⟨hmisses, haddress', hmarker'⟩ := look_of_fault (v := stop.toVisit) hfetch
    refine ⟨hmisses, haddress'.trans haddress, ?_⟩
    rw [hmarker', hmarker, Nat.max_zero]
  | some w =>
    rw [hw] at hserves
    obtain ⟨feed, hfetch, hshows⟩ := hserves
    have hsound := hmarker ▸ hshows.sound (top past)
    have htop : w.low < w.high → top past ≤ w.high := top_le_of_precedes hpast hw
    obtain ⟨hbrings, fresh, hcontact, hfresh, hnewest⟩ :=
      look_of_sound (v := stop.toVisit) hfetch hsound (hu feed hfetch)
    rw [hmarker] at hbrings hfresh
    refine ⟨?_, ?_, ?_⟩
    · rw [hshows.selection_eq htop] at hbrings
      rw [Stop.batch, hw]
      exact hbrings
    · rw [hcontact]
      exact haddress
    · rw [hcontact]
      show fresh.or (s.contact h).marker = _
      rw [hmarker]
      exact hshows.marker_or htop hfresh hnewest

/-- A run during which a feed without dates moves along an archive and nothing fails but the getting
of the feed. -/
structure Tour (a : Archive) (h : Handle) (s : Newsroom) (stops : List Stop) : Prop where
  start : (s.contact h).marker = none
  serves : ∀ stop ∈ stops, stop.Serves a (s.contact h).address
  forward : stops.Pairwise Stop.Precedes
  undisturbed : Undisturbed h s (stops.map Stop.toVisit)

def passing (h : Handle) (s : Newsroom) (past : List Stop) : Newsroom :=
  after h s (past.map Stop.toVisit)

theorem passing_append (h : Handle) (s : Newsroom) (past : List Stop) (stop : Stop) :
    passing h s (past ++ [stop]) = (look h (passing h s past) stop.toVisit).2 := by
  rw [passing, List.map_append]
  exact after_append h s _ _

namespace Tour

theorem step (ht : Tour a h s stops) {past rest : List Stop} {stop : Stop}
    (hsplit : stops = past ++ stop :: rest)
    (habreast : Abreast a h (s.contact h).address past (passing h s past)) :
    stop.Delivers a h (passing h s past) past ∧
      Abreast a h (s.contact h).address (past ++ [stop]) (passing h s (past ++ [stop])) := by
  have hmem : stop ∈ stops := hsplit ▸ List.mem_append_right past (List.mem_cons_self ..)
  have hpast : ∀ p ∈ past, p.Precedes stop := fun p hp =>
    (List.pairwise_append.mp (hsplit ▸ ht.forward)).2.2 p hp stop (List.mem_cons_self ..)
  have hvisits : stops.map Stop.toVisit
      = past.map Stop.toVisit ++ stop.toVisit :: rest.map Stop.toVisit := by
    rw [hsplit, List.map_append, List.map_cons]
  rw [passing_append]
  exact habreast.stop (ht.serves stop hmem) hpast (ht.undisturbed _ _ _ hvisits)

theorem abreast (ht : Tour a h s stops) {past rest : List Stop} (hsplit : stops = past ++ rest) :
    Abreast a h (s.contact h).address past (passing h s past) :=
  prefix_induction (P := fun past => Abreast a h _ past (passing h s past)) ⟨rfl, ht.start⟩
    (fun _ _ _ hsplit ih => (ht.step hsplit ih).2) past rest hsplit

theorem delivers (ht : Tour a h s stops) {past rest : List Stop} {stop : Stop}
    (hsplit : stops = past ++ stop :: rest) : stop.Delivers a h (passing h s past) past :=
  (ht.step hsplit (ht.abreast hsplit)).1

end Tour

theorem mem_batch {past : List Stop} {stop : Stop} {j : Nat} :
    j ∈ stop.batch past ↔
      top past ≤ j ∧ ∃ w, stop.window = some w ∧ w.low ≤ j ∧ j < w.high := by
  rw [Stop.batch]
  cases stop.window with
  | none => exact ⟨(nomatch ·), fun ⟨_, _, hw, _⟩ => nomatch hw⟩
  | some w =>
    rw [List.mem_filter, Window.numbers, mem_countdown, decide_eq_true_eq]
    constructor
    · exact fun ⟨hj, htop⟩ => ⟨htop, w, rfl, hj⟩
    · rintro ⟨htop, _, ⟨⟩, hj⟩
      exact ⟨hj, htop⟩

theorem lt_reach {stop : Stop} {j : Nat} :
    j < stop.reach ↔ ∃ w, stop.window = some w ∧ w.low < w.high ∧ j < w.high := by
  rw [Stop.reach]
  cases stop.window with
  | none => exact ⟨(nomatch ·), fun ⟨_, hw, _⟩ => nomatch hw⟩
  | some w =>
    show (j < if w.low < w.high then w.high else 0) ↔ _
    split
    · next hlt => exact ⟨fun hj => ⟨w, rfl, hlt, hj⟩, fun ⟨_, hw, _, hj⟩ => by cases hw; exact hj⟩
    · next hlt => exact ⟨(nomatch ·), fun ⟨_, hw, hlt', _⟩ => by cases hw; exact absurd hlt' hlt⟩

theorem disjoint_batches {past mid : List Stop} {stop later : Stop} :
    (stop.batch past).Disjoint (later.batch (past ++ stop :: mid)) := by
  intro j hj hj'
  obtain ⟨_, w, hw, hlow, hhigh⟩ := mem_batch.mp hj
  obtain ⟨htop, _⟩ := mem_batch.mp hj'
  have hreach : j < stop.reach := lt_reach.mpr ⟨w, hw, by omega, hhigh⟩
  have hle := top_le_iff.mp htop stop (List.mem_append_right past (List.mem_cons_self ..))
  omega

theorem exists_first {n : Nat} (hn : n < top stops) :
    ∃ past first rest, stops = past ++ first :: rest ∧ top past ≤ n ∧ n < first.reach := by
  induction stops using List.reverseRecOn with
  | nil => cases hn
  | append_singleton past last ih =>
    by_cases hpast : n < top past
    · obtain ⟨before, first, rest, hsplit, hfirst⟩ := ih hpast
      refine ⟨before, first, rest ++ [last], ?_, hfirst⟩
      rw [hsplit, List.append_assoc, List.cons_append]
    · rw [top_append] at hn
      exact ⟨past, last, [], rfl, by omega, by omega⟩

/-- Whatever is shown at a stop is delivered there or was before. -/
theorem exists_batch (hforward : stops.Pairwise Stop.Precedes) {stop : Stop} (hstop : stop ∈ stops)
    {w : Window} (hw : stop.window = some w) {j : Nat} (hj : j ∈ w.numbers) :
    ∃ past first rest, stops = past ++ first :: rest ∧ j ∈ first.batch past := by
  obtain ⟨hlow, hhigh⟩ := mem_countdown.mp hj
  have hreach : j < stop.reach := lt_reach.mpr ⟨w, hw, by omega, hhigh⟩
  have htop : stop.reach ≤ top stops := top_le_iff.mp (Nat.le_refl _) stop hstop
  obtain ⟨past, first, rest, hsplit, hpast, hfirst⟩ := exists_first (Nat.lt_of_lt_of_le hreach htop)
  obtain ⟨v, hv, hvlt, hvhigh⟩ := lt_reach.mp hfirst
  refine ⟨past, first, rest, hsplit, mem_batch.mpr ⟨hpast, v, hv, ?_, hvhigh⟩⟩
  rw [hsplit] at hstop hforward
  rcases List.mem_append.mp hstop with hbefore | hstop
  · have := top_le_iff.mp hpast stop hbefore
    omega
  · rcases List.mem_cons.mp hstop with rfl | hafter
    · cases hw.symm.trans hv
      exact hlow
    · have hpairs := (List.pairwise_append.mp hforward).2.1
      have hprecedes := (List.pairwise_cons.mp hpairs).1 stop hafter v w hv hw hvlt (by omega)
      omega

/-- Over a run along an archive each stop delivers the items beyond all that was shown before, and
reports news exactly when there are some; so no item is delivered twice, and none that is shown is
missed. -/
theorem undated_exactly_once (ht : Tour a h s stops) :
    (∀ past stop rest, stops = past ++ stop :: rest → stop.Delivers a h (passing h s past) past) ∧
    (∀ past stop mid later rest, stops = past ++ stop :: (mid ++ later :: rest) →
      (stop.batch past).Disjoint (later.batch (past ++ stop :: mid))) ∧
    ∀ stop ∈ stops, ∀ w, stop.window = some w → ∀ j ∈ w.numbers,
      ∃ past first rest, stops = past ++ first :: rest ∧ j ∈ first.batch past :=
  ⟨fun _ _ _ hsplit => ht.delivers hsplit, fun _ _ _ _ _ _ => disjoint_batches,
    fun _ hstop _ hw _ hj => exists_batch ht.forward hstop hw hj⟩

/-- An archive of items with longer and longer names. -/
def tally : Archive where
  item := fun j => .bare (String.ofList (List.replicate j 'a'))
  guid := fun j => String.ofList (List.replicate j 'a')
  guid_item := fun _ => rfl
  distinct := by
    have hlower (before : List Char) (j : Nat) :
        Text.lowerFrom before (List.replicate j 'a') = List.replicate j 'a' := by
      induction j generalizing before with
      | zero => rfl
      | succ j ih =>
        rw [List.replicate_succ, Text.lowerFrom, ih]
        rfl
    intro i j h
    have hchars := congrArg (fun text => text.toList.length) h
    simpa only [Text.lower, String.toList_ofList, hlower, List.length_replicate] using hchars
  published := fun _ => rfl
  renders := fun _ => Item.renders_bare _

def tallyStop (w : Window) (onRequest : Bool) : Stop where
  world := .showing ⟨.text "Tally", w.numbers.map tally.item, []⟩
  onRequest := onRequest
  window := some w

theorem serves_tallyStop (w : Window) (onRequest : Bool) (address : Option String) :
    (tallyStop w onRequest).Serves tally address := by
  refine ⟨_, rfl, rfl, fun hne => ?_⟩
  obtain ⟨j, hj⟩ := List.exists_mem_of_ne_nil _ hne
  exact ⟨j, hj, rfl⟩

def refusedStop : Stop where
  world := { Outside.showing ⟨.null, [], []⟩ with fetch := fun _ => .error (.unreadable "refused") }
  onRequest := true
  window := none

theorem delivers_third_of_tally :
    Brings 0 (passing 0 bare [tallyStop ⟨0, 2⟩ false, refusedStop]) (tallyStop ⟨1, 3⟩ true).toVisit
      [tally.item 2] := by
  have htour : Tour tally 0 bare [tallyStop ⟨0, 2⟩ false, refusedStop, tallyStop ⟨1, 3⟩ true] := by
    constructor
    · rfl
    · refine List.forall_mem_cons.mpr ⟨serves_tallyStop _ _ _, ?_⟩
      refine List.forall_mem_cons.mpr ⟨show ∃ fault, _ = _ from ⟨_, rfl⟩, ?_⟩
      exact List.forall_mem_singleton.mpr (serves_tallyStop _ _ _)
    · refine List.pairwise_cons.mpr ⟨?_, List.pairwise_pair.mpr fun _ _ hv => nomatch hv⟩
      refine List.forall_mem_cons.mpr ⟨fun _ _ _ hw => (nomatch hw), ?_⟩
      rw [List.forall_mem_singleton]
      intro v w hv hw _ _
      cases hv
      cases hw
      decide
    · refine .cons (fun _ _ => .of_no_store (Outside.quiet_showing _) rfl _ _) ?_
      refine .cons (fun _ hf => nomatch hf) ?_
      refine .cons (fun _ _ => .of_no_store (Outside.quiet_showing _) rfl _ _) ?_
      exact undisturbed_nil _ _
  exact (undated_exactly_once htour).1 [_, _] _ [] rfl

end Newsroom

end Newswire

import Mathlib.Data.List.Induction
import Newswire.Proofs.Hearing
import Newswire.Proofs.Selection

/-!
Runs of looks at the feed of one contact. Between two looks the contact stands as the first left it;
a look that could not have the feed leaves the marker where it was. So what a run delivers is told by
an invariant of the marker, which each look passes on to the next.
-/

namespace Newswire

/-- A world without a user in which every address leads to the feed and no listener does anything. -/
def Outside.showing (feed : Feed) : Outside where
  fetch := fun _ => .ok feed
  ask := none
  react := fun _ _ _ => []
  now := ⟨⟨2024, 1, 1, by decide⟩, ⟨12, 0, 0, 0, by decide⟩, some .utc⟩

theorem Outside.quiet_showing (feed : Feed) : (Outside.showing feed).Quiet :=
  fun _ _ _ _ => List.not_mem_nil

namespace Newsroom

def bare : Newsroom :=
  .empty none ⟨.whole 300, .whole 300, [], none⟩

/-- A newsroom at its beginning, over an open store that holds nothing. -/
def blank : Newsroom :=
  { bare with store := some ⟨[], 0, true⟩ }

/-- One look of a run: what it meets outside, and whether the user asked for it. -/
structure Visit where
  world : Outside
  onRequest : Bool

def look (h : Handle) (s : Newsroom) (v : Visit) : Except Fault (Option Outcome) × Newsroom :=
  exec (check v.world h v.onRequest) s

def after (h : Handle) (s : Newsroom) (visits : List Visit) : Newsroom :=
  visits.foldl (fun t v => (look h t v).2) s

theorem after_append (h : Handle) (s : Newsroom) (past : List Visit) (v : Visit) :
    after h s (past ++ [v]) = (look h (after h s past) v).2 := by
  simp only [after, List.foldl_append, List.foldl_cons, List.foldl_nil]

/-- Nothing fails during a run but the getting of feeds. -/
def Undisturbed (h : Handle) (s : Newsroom) (visits : List Visit) : Prop :=
  ∀ past v rest, visits = past ++ v :: rest → ∀ feed,
    v.world.fetch ((after h s past).contact h).address = .ok feed →
    Untroubled v.world (after h s past) h feed

theorem undisturbed_nil (h : Handle) (s : Newsroom) : Undisturbed h s [] := by
  intro past v rest hsplit
  cases past <;> cases hsplit

theorem Undisturbed.cons {h : Handle} {s : Newsroom} {v : Visit} {visits : List Visit}
    (hv : ∀ feed, v.world.fetch (s.contact h).address = .ok feed → Untroubled v.world s h feed)
    (hrest : Undisturbed h (look h s v).2 visits) : Undisturbed h s (v :: visits) := by
  intro past u rest hsplit
  cases past with
  | nil =>
    cases hsplit
    exact hv
  | cons first past =>
    cases hsplit
    exact hrest past u rest rfl

theorem prefix_induction {α : Type} {run : List α} {P : List α → Prop} (start : P [])
    (step : ∀ past a rest, run = past ++ a :: rest → P past → P (past ++ [a])) :
    ∀ past rest, run = past ++ rest → P past := by
  intro past
  induction past using List.reverseRecOn with
  | nil => exact fun _ _ => start
  | append_singleton past a ih =>
    intro rest hrun
    rw [List.append_assoc, List.singleton_append] at hrun
    exact step past a rest hrun (ih (a :: rest) hrun)

/-- What each step passes on under a condition holds at every point of a run if and only if the
condition is met at each step. -/
theorem prefix_iff {α : Type} {run : List α} {P : List α → Prop} {Q : List α → α → Prop}
    (start : P [])
    (step : ∀ past a rest, run = past ++ a :: rest → P past → (P (past ++ [a]) ↔ Q past a)) :
    (∀ past rest, run = past ++ rest → P past) ↔
      ∀ past a rest, run = past ++ a :: rest → Q past a := by
  constructor
  · intro hall past a rest hrun
    have hnext : run = (past ++ [a]) ++ rest := by
      rw [hrun, List.append_assoc, List.singleton_append]
    exact (step past a rest hrun (hall past (a :: rest) hrun)).mp (hall (past ++ [a]) rest hnext)
  · intro hmet
    refine prefix_induction start fun past a rest hrun hpast => ?_
    exact (step past a rest hrun hpast).mpr (hmet past a rest hrun)

theorem CanSave.of_no_store {s : Newsroom} (hs : s.store = none) (c : Contact) : s.CanSave c := by
  intro store hstore
  rw [hs] at hstore
  cases hstore

theorem Untroubled.of_no_store {w : Outside} {s : Newsroom} (hw : w.Quiet) (hs : s.store = none)
    (h : Handle) (feed : Feed) : Untroubled w s h feed where
  quiet := hw
  back := fun _ => .of_no_store hs _
  change := fun _ _ _ => .of_no_store hs _

/-- A look brings some items: it reports news when there are any and sends the message about them,
or that there are none to someone who asked. Those who read hear of it, and of nothing else. -/
def Brings (h : Handle) (s : Newsroom) (v : Visit) (items : List Item) : Prop :=
  ∃ outcome body, (look h s v).1 = .ok (some outcome) ∧ Html.body items = .ok body ∧
    outcome.hasNews = !items.isEmpty ∧
    let t := (look h s v).2
    let sends := !items.isEmpty || v.onRequest
    t.received h = s.received h ++ (if sends then [.html body] else []) ∧
    t.hearings = s.hearings ++
      if sends then s.hearing v.world (.received (.html body) (t.contact h)) else []

/-- A look fails to have the feed: it comes to no outcome, sends no message, and none is heard. -/
def Misses (h : Handle) (s : Newsroom) (v : Visit) : Prop :=
  (∀ outcome, (look h s v).1 ≠ .ok (some outcome)) ∧ (look h s v).2.received h = s.received h ∧
    (look h s v).2.hearings = s.hearings

variable {h : Handle} {s : Newsroom} {v : Visit} {feed : Feed}

/-- A look during which nothing fails brings the items that are newer than the marker, and the
marker becomes that of the newest item when there are some. -/
theorem look_of_sound (hfetch : v.world.fetch (s.contact h).address = .ok feed)
    (hs : feed.Sound (s.contact h).marker) (hu : Untroubled v.world s h feed) :
    Brings h s v (feed.selection (s.contact h).marker) ∧
      ∃ fresh, (look h s v).2.contact h = (s.contact h).takingIn feed fresh ∧
        fresh.isSome = !(feed.selection (s.contact h).marker).isEmpty ∧
        ∀ marker, fresh = some marker → feed.Newest (some marker) := by
  obtain ⟨news, hnews, htells⟩ := hs.exists_news
  have hok := exec_check_fst hfetch hnews hu v.onRequest
  rcases he : look h s v with ⟨r, t⟩
  have hr : r = .ok (some (.of (s.contact h).name feed news v.onRequest)) :=
    (congrArg Prod.fst he).symm.trans hok
  obtain ⟨hcontact, _, houtcome⟩ := check_of_canSave hfetch hnews hu.back he
  obtain ⟨_, hreceived⟩ := houtcome _ hr
  subst hr
  obtain ⟨own, told, hown, htold, _, _, _, hhearings⟩ := check_ok he
  obtain rfl : own = feed := Except.ok.inj (hown.symm.trans hfetch)
  obtain rfl : told = news := Except.ok.inj (htold.symm.trans hnews)
  refine ⟨⟨.of (s.contact h).name own told v.onRequest, told.body, ?_, htells.body, htells.fresh,
    ?_, ?_⟩, told.fresh, ?_, htells.fresh, fun marker hm => (htells.newest marker hm).2⟩
  · rw [he]
  · rw [he, hreceived, sent, htells.fresh]
  · rw [he, hhearings, sent, htells.fresh]
    split
    · exact congrArg (s.hearings ++ ·) (List.flatMap_singleton ..)
    · rfl
  · exact hcontact

theorem look_of_fault {fault : Fault}
    (hfetch : v.world.fetch (s.contact h).address = .error fault) :
    Misses h s v ∧ ((look h s v).2.contact h).address = (s.contact h).address ∧
      ((look h s v).2.contact h).marker = (s.contact h).marker := by
  rcases he : look h s v with ⟨r, t⟩
  obtain ⟨hstanding, hr⟩ := check_of_fetch_error hfetch he
  have hmail : t.mail = s.mail := mail_of_fetch_error hfetch he
  have hcontact : (t.contact h).online = (s.contact h).online := congrArg Prod.fst hstanding
  have haddress : (t.contact h).address = (s.contact h).address :=
    (congrArg Contact.address hcontact :)
  have hmarker : (t.contact h).marker = (s.contact h).marker :=
    (congrArg Contact.marker hcontact :)
  rw [Misses, he]
  exact ⟨⟨hr, congrArg Prod.snd hstanding, congrArg (·.2.2) hmail⟩, haddress, hmarker⟩

end Newsroom

end Newswire

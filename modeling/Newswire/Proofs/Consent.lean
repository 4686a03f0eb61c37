import Newswire.Proofs.Departed
import Newswire.Proofs.Isolation
import Newswire.Proofs.Membership

/-!
Whose subscription ends when news are sought. A contact leaves the list only when its own feed was
found gone while it was online and the user, asked about it, said yes; it is offline then, and the
row of its address goes with it. Whatever else is sought, found, answered or heard, nobody leaves
and nobody comes.
-/

namespace Newswire

def Entry.agreed? : Entry → Option Handle
  | .asked about _ (.ok true) => some about
  | _ => none

namespace Newsroom

variable {s t u : Newsroom} {h : Handle} {gone gone' : List Handle} {w : Outside}

/-- The contacts that the user has agreed to remove so far. -/
def agreements (s : Newsroom) : List Handle :=
  s.trace.filterMap Entry.agreed?

theorem agreements_append (s : Newsroom) (more : List Entry) :
    { s with trace := s.trace ++ more }.agreements
      = s.agreements ++ more.filterMap Entry.agreed? :=
  List.filterMap_append

/-- Some contacts were removed, each of them because it was online, went offline, and the user said
yes when asked about it. -/
structure ByConsent (w : Outside) (gone : List Handle) (s t : Newsroom) : Prop
    extends Without gone s t where
  agreements : t.agreements = s.agreements ++ gone
  online : ∀ h ∈ gone, (s.contact h).presence = .online
  offline : ∀ h ∈ gone, (t.contact h).presence = .offline
  answered : ∀ h ∈ gone, ∃ n, w.answer n (s.contact h).address = some (.ok true)

namespace ByConsent

theorem of_same (hidentity : ∀ i, (t.contact i).identity = (s.contact i).identity)
    (hroster : t.roster = s.roster) (hstore : Option.Rel (Store.Lacking []) s.store t.store)
    (hagreements : t.agreements = s.agreements) : ByConsent w [] s t :=
  { Without.of_same hidentity hroster hstore with
    agreements := by rw [hagreements, List.append_nil]
    online := fun _ hi => nomatch hi
    offline := fun _ hi => nomatch hi
    answered := fun _ hi => nomatch hi }

theorem of_trace {more : List Entry} (hmore : more.filterMap Entry.agreed? = []) :
    ByConsent w [] s { s with trace := s.trace ++ more } := by
  refine of_same (fun _ => rfl) rfl (Without.refl_store s.store) ?_
  rw [agreements_append, hmore, List.append_nil]

theorem refl (w : Outside) (s : Newsroom) : ByConsent w [] s s :=
  of_same (fun _ => rfl) rfl (Without.refl_store s.store) rfl

theorem fetching (w : Outside) (s : Newsroom) (h : Handle) : ByConsent w [] s (s.fetching h) :=
  of_trace rfl

theorem noting (w : Outside) (s : Newsroom) (notes : List Journal.Note) :
    ByConsent w [] s (s.noting notes) := by
  refine of_trace (List.filterMap_eq_nil_iff.mpr fun entry he => ?_)
  obtain ⟨_, _, rfl⟩ := List.mem_map.mp he
  rfl

theorem trans (h : ByConsent w gone s t) (h' : ByConsent w gone' t u)
    (hbefore : ∀ i ∈ gone', t.contact i = s.contact i)
    (hafter : ∀ i ∈ gone, u.contact i = t.contact i) : ByConsent w (gone ++ gone') s u :=
  { h.toWithout.trans h'.toWithout with
    agreements := by rw [h'.agreements, h.agreements, List.append_assoc]
    online := fun i hi => by
      rcases List.mem_append.mp hi with hi | hi
      · exact h.online i hi
      · rw [← hbefore i hi]
        exact h'.online i hi
    offline := fun i hi => by
      rcases List.mem_append.mp hi with hi | hi
      · rw [hafter i hi]
        exact h.offline i hi
      · exact h'.offline i hi
    answered := fun i hi => by
      rcases List.mem_append.mp hi with hi | hi
      · exact h.answered i hi
      · rw [← hbefore i hi]
        exact h'.answered i hi }

theorem preceded (h : ByConsent w gone t u) (hst : ByConsent w [] s t)
    (hsame : t.contact = s.contact) : ByConsent w gone s u :=
  hst.trans h (fun i _ => congrFun hsame i) fun _ hi => nomatch hi

theorem followed (h : ByConsent w gone s t) (htu : ByConsent w [] t u)
    (hsame : u.contact = t.contact) : ByConsent w gone s u := by
  have hboth := h.trans htu (fun _ hi => nomatch hi) fun i _ => congrFun hsame i
  rwa [List.append_nil] at hboth

theorem noted (h : ByConsent w gone s t) (notes : List Journal.Note) :
    ByConsent w gone s (t.noting notes) :=
  h.followed (.noting w t notes) rfl

theorem asked (hst : ByConsent w gone s t) (question : Question) {answer : Except Fault Bool}
    (hno : (Entry.asked h question answer).agreed? = none) (questions : Nat) :
    ByConsent w gone s { t with
      questions := questions
      trace := t.trace ++ [.asked h question answer] } := by
  let u : Newsroom := { t with
    questions := questions
    trace := t.trace ++ [.asked h question answer] }
  have hsame : u.agreements = t.agreements := by
    refine (agreements_append t _).trans ?_
    rw [List.filterMap_cons_none hno]
    exact List.append_nil _
  exact hst.followed (.of_same (fun _ => rfl) rfl (Without.refl_store _) hsame) rfl

theorem edit {change : Contact → Contact} (hc : ∀ c, (change c).identity = c.identity) :
    ByConsent w [] s (exec (Newsroom.edit h change) s).2 := by
  refine of_same (fun i => ?_) rfl (Without.refl_store s.store) rfl
  rw [exec_edit]
  by_cases hi : i = h
  · rw [hi, contact_withContact]
    exact hc _
  · rw [contact_withContact_of_ne _ _ hi]

theorem tell (w w' : Outside) (topic : Topic) (about : Handle) (event : Event) (s : Newsroom) :
    ByConsent w [] s (exec (Newsroom.tell w' topic about event) s).2 := by
  have hkept : Keeps (fun s : Newsroom => (s.roster, s.contact, s.store))
      (Newsroom.tell w' topic about event) :=
    .tell (fun _ _ => rfl) (fun _ topic _ => by cases topic <;> rfl) w' topic about event
  have hsame := hkept s
  have hstore : (exec (Newsroom.tell w' topic about event) s).2.store = s.store :=
    congrArg (·.2.2) hsame
  refine of_same (fun i => ?_) (congrArg Prod.fst hsame) ?_ ?_
  · exact congrArg (fun view => (view.2.1 i).identity) hsame
  · rw [hstore]
    exact Without.refl_store s.store
  · exact (filterMap_trace_tell (fun _ _ _ => rfl) w' topic about event s).trans
      (List.append_nil _)

end ByConsent

theorem takingBound_byConsent (w : Outside) (h : Handle) : TakingBound h (ByConsent w []) where
  refl := .refl w
  trans hst htu := hst.trans htu (fun _ hi => nomatch hi) fun _ hi => nomatch hi
  noted note s := .noting w s [note]
  presence _ _ := .edit fun _ => rfl
  saved {s} store store' hstore _ hu := by
    refine .of_same (fun _ => rfl) rfl ?_ rfl
    rw [hstore]
    exact .some (.of_update hu)
  named _ _ := .edit fun _ => rfl
  marked _ _ := .edit fun _ => rfl
  told w' topic event := .tell w w' topic h event

/-! ### Feeds that are gone -/

theorem keeps_unsubscribe (h : Handle) :
    Keeps (fun s : Newsroom => (s.contact, s.agreements)) (unsubscribe h) := by
  refine .unsubscribe (fun note s => ?_) fun _ _ _ => rfl
  exact Prod.ext rfl ((agreements_append s [.noted note]).trans (List.append_nil _))

theorem byConsent_remove {n : Nat} {question : Question} (hs : s.roster.Nodup)
    (ht : ByConsent w [] s t) (hon : (s.contact h).presence = .online)
    (hoff : (t.contact h).presence = .offline)
    (hyes : w.answer n (s.contact h).address = some (.ok true)) (questions : Nat) :
    ByConsent w [h] s (exec (removeDead h) { t with
      questions := questions
      trace := t.trace ++ [.asked h question (.ok true)] }).2 := by
  let asked : Newsroom := { t with
    questions := questions
    trace := t.trace ++ [.asked h question (.ok true)] }
  have hasked : Without [] t asked := .of_same (fun _ => rfl) rfl (Without.refl_store t.store)
  have hremoved := without_unsubscribe (s := asked) (ht.nodup hs) h
  have hkept := keeps_unsubscribe h asked
  have hcontact : (exec (unsubscribe h) asked).2.contact = t.contact := congrArg Prod.fst hkept
  have hagreed : (exec (unsubscribe h) asked).2.agreements = s.agreements ++ [h] := by
    have hyet : t.agreements = s.agreements := by rw [ht.agreements, List.append_nil]
    rw [← hyet]
    exact (congrArg Prod.snd hkept).trans (agreements_append t [.asked h question (.ok true)])
  have hone (P : Handle → Prop) (hp : P h) : ∀ i ∈ [h], P i := fun i hi =>
    List.mem_singleton.mp hi ▸ hp
  have hleft : ByConsent w [h] s (exec (unsubscribe h) asked).2 :=
    { (ht.toWithout.trans hasked).trans hremoved with
      agreements := hagreed
      online := hone _ hon
      offline := hone _ (by rw [hcontact]; exact hoff)
      answered := hone _ ⟨n, hyes⟩ }
  obtain ⟨notes, hdead⟩ := exists_removeDead_eq h asked
  rw [hdead]
  exact hleft.noted notes

theorem byConsent_recover (hs : s.roster.Nodup) (w : Outside) (h : Handle) :
    ∃ gone, gone.Sublist [h] ∧ ByConsent w gone s (exec (recover w h) s).2 := by
  have hoffline := (takingBound_byConsent w h).setPresence .offline s
  obtain ⟨t, notes, hset, haffairs, _⟩ := affairs_setPresence h .offline s
  rw [exec_recover]
  by_cases hp : (s.contact h).presence = .offline
  · rw [if_pos hp]
    exact ⟨[], List.nil_sublist _, .refl w s⟩
  · rw [if_neg hp]
    rw [hset] at hoffline ⊢
    rcases ((s.affairs h).setPresence .offline).1 with fault | _
    · exact ⟨[], List.nil_sublist _, hoffline⟩
    · have hcontact : t.contact h = { s.contact h with presence := .offline } :=
        (congrArg Affairs.contact haffairs).trans (Affairs.contact_setPresence _ _)
      have hon : (s.contact h).presence = .online :=
        congrArg Contact.presence (Contact.online_of_ne_offline hp).symm
      have hoff : (t.contact h).presence = .offline := by rw [hcontact]
      dsimp only
      cases hask : w.ask with
      | none => exact ⟨[], List.nil_sublist _, hoffline⟩
      | some ask =>
        dsimp only
        let question := removalQuestion (t.contact h).address
        have hanswer : w.answer t.questions (s.contact h).address
            = some (ask t.questions question) := by
          simp only [question, Outside.answer, hask, hcontact, Option.map_some]
        rcases hsaid : ask t.questions (removalQuestion (t.contact h).address) with fault | _ | _
        · have hno : (Entry.asked h question (.error fault)).agreed? = none := rfl
          have hfailed := hoffline.asked question hno (t.questions + 1)
          exact ⟨[], List.nil_sublist _, hfailed.noted [⟨.error, .refresh, _, some fault⟩]⟩
        · have hno : (Entry.asked h question (.ok false)).agreed? = none := rfl
          exact ⟨[], List.nil_sublist _, hoffline.asked question hno (t.questions + 1)⟩
        · rw [hsaid] at hanswer
          exact ⟨[h], .refl _, byConsent_remove hs hoffline hon hoff hanswer _⟩

theorem byConsent_reportGone (hs : s.roster.Nodup) (w : Outside) (h : Handle) :
    ∃ gone, gone.Sublist [h] ∧ ByConsent w gone s (exec (reportGone w h) s).2 := by
  obtain ⟨gone, hsub, hgone⟩ := byConsent_recover hs w h
  obtain ⟨notes, hreported⟩ := exists_background_eq "feed-not-found" (recover w h) s
  refine ⟨gone, hsub, ?_⟩
  rw [reportGone, hreported]
  exact hgone.noted notes

/-! ### Looking at feeds -/

/-- Whoever is removed by a look is the contact whose feed was found gone. -/
theorem byConsent_check (hs : s.roster.Nodup) (w : Outside) (h : Handle) (onRequest : Bool) :
    ∃ gone, gone.Sublist [h] ∧ ByConsent w gone s (exec (check w h onRequest) s).2 ∧
      ∀ i ∈ gone, ∃ why, w.fetch (s.contact i).address = .error (.gone why) := by
  have hstart : ByConsent w [] s (s.fetching h) := .fetching w s h
  have hnobody (t : Newsroom) (ht : ByConsent w [] (s.fetching h) t) :
      ∃ gone, gone.Sublist [h] ∧ ByConsent w gone s t ∧
        ∀ i ∈ gone, ∃ why, w.fetch (s.contact i).address = .error (.gone why) :=
    ⟨[], List.nil_sublist _, ht.preceded hstart rfl, fun _ hi => nomatch hi⟩
  cases hfetch : w.fetch (s.contact h).address with
  | ok feed =>
    rw [exec_check_of_fetch hfetch]
    exact hnobody _ ((takingBound_byConsent w h).takeIn w feed onRequest (s.fetching h))
  | error fault =>
    cases fault with
    | gone why =>
      obtain ⟨notes, hreported⟩ := exists_check_eq_of_gone hfetch onRequest
      obtain ⟨gone, hsub, hgone⟩ :=
        byConsent_reportGone (s := (s.fetching h).noting notes) hs w h
      rw [hreported]
      refine ⟨gone, hsub, hgone.preceded (hstart.noted notes) rfl, fun i hi => ?_⟩
      rw [List.mem_singleton.mp (hsub.subset hi)]
      exact ⟨why, hfetch⟩
    | unreadable why =>
      simp only [check, exec_bind, exec_contactOf, exec_fetched, hfetch, exec_note, exec_pure]
      exact hnobody _ (.noting w (s.fetching h) _)
    | _ =>
      simp only [check, exec_bind, exec_contactOf, exec_fetched, hfetch]
      exact hnobody _ (.refl w _)

theorem byConsent_refresh (hs : s.roster.Nodup) (w : Outside) (h : Handle) :
    ∃ gone, gone.Sublist [h] ∧ ByConsent w gone s (exec (refresh w h) s).2 ∧
      ∀ i ∈ gone, ∃ why, w.fetch (s.contact i).address = .error (.gone why) := by
  obtain ⟨gone, hsub, hgone, hfound⟩ := byConsent_check hs w h true
  obtain ⟨notes, hrefreshed⟩ := exists_background_eq "feed-refresh" (discard (check w h true)) s
  refine ⟨gone, hsub, ?_, hfound⟩
  rw [refresh, hrefreshed, exec_discard]
  exact hgone.noted notes

theorem byConsent_checkAll (w : Outside) {hs : List Handle} (hdistinct : hs.Nodup)
    (hnodup : s.roster.Nodup) :
    ∃ gone, gone.Sublist hs ∧ ByConsent w gone s (exec (hs.forM (checkInSweep w)) s).2 ∧
      ∀ i ∈ gone, ∃ why, w.fetch (s.contact i).address = .error (.gone why) := by
  induction hs generalizing s with
  | nil => exact ⟨[], .slnil, .refl w s, fun _ hi => nomatch hi⟩
  | cons first rest ih =>
    obtain ⟨hnew, hdistinct⟩ := List.nodup_cons.mp hdistinct
    obtain ⟨notes, hfirst⟩ := exists_checkInSweep_eq w first s
    obtain ⟨gone, hsub, hgone, hfound⟩ := byConsent_check hnodup w first false
    have hspared := sparing_check (List.mem_singleton_self first) w false s
    let t := (exec (check w first false) s).2.noting notes
    have ht : ByConsent w gone s t := hgone.noted notes
    have hothers : ∀ i ∈ rest, t.contact i = s.contact i := fun i hi =>
      hspared.contact i fun hm => hnew (List.mem_singleton.mp hm ▸ hi)
    obtain ⟨gone', hsub', hgone', hfound'⟩ := ih hdistinct (ht.nodup hnodup)
    obtain ⟨u, hrest, hspared', _⟩ := exec_checkAll w rest t
    have hrun : exec ((first :: rest).forM (checkInSweep w)) s
        = exec (rest.forM (checkInSweep w)) t := by
      rw [List.forM_eq_forM, List.forM_cons, exec_bind, hfirst]
    refine ⟨gone ++ gone', hsub.append hsub', ?_, fun i hi => ?_⟩
    · rw [hrun]
      refine ht.trans hgone' (fun i hi => hothers i (hsub'.subset hi)) fun i hi => ?_
      rw [hrest]
      exact hspared'.contact i fun hm => hnew (List.mem_singleton.mp (hsub.subset hi) ▸ hm)
    · rcases List.mem_append.mp hi with hi | hi
      · exact hfound i hi
      · rw [← hothers i (hsub'.subset hi)]
        exact hfound' i hi

theorem byConsent_send (hs : s.roster.Nodup) (w : Outside) (h : Handle) (message : Message) :
    ∃ gone, gone.Sublist [h] ∧ ByConsent w gone s (exec (send w h message) s).2 ∧
      ∀ i ∈ gone, ∃ why, (Act.send h message).finds w s i = some (.error (.gone why)) := by
  unfold send
  rw [exec_bind, exec_contactOf]
  dsimp only
  by_cases hoff : ((s.contact h).persistent && (s.contact h).presence = .offline) = true
  · rw [if_pos hoff]
    exact ⟨[], List.nil_sublist _, .tell w w .messages h _ s, fun _ hi => nomatch hi⟩
  · have hdelivered := ByConsent.tell w w .messages h
      (.delivered acknowledgement (s.contact h)) s
    have hcontact := keeps_contact_tell w .messages h
      (.delivered acknowledgement (s.contact h)) s
    have hround := exec_tell w .messages h (.delivered acknowledgement (s.contact h)) s
    rw [if_neg hoff, exec_bind]
    rcases he : exec (tell w .messages h (.delivered acknowledgement (s.contact h))) s
      with ⟨fault | _, t⟩
    all_goals rw [he] at hdelivered hcontact hround
    · exact ⟨[], List.nil_sublist _, hdelivered, fun _ hi => nomatch hi⟩
    · obtain ⟨gone, hsub, hgone, hfound⟩ := byConsent_refresh (hdelivered.nodup hs) w h
      refine ⟨gone, hsub, hgone.preceded hdelivered hcontact, fun i hi => ?_⟩
      have hnone : ((s.audience .messages).tell (w.react .messages)
          (.delivered acknowledgement (s.contact h))).fault = none := by
        cases hfault : ((s.audience .messages).tell (w.react .messages)
            (.delivered acknowledgement (s.contact h))).fault with
        | none => rfl
        | some fault =>
          simp only [hfault] at hround
          cases congrArg Prod.fst hround
      have hgreets : s.greets w h = true := by
        rw [greets, hnone, Bool.eq_false_iff.mpr hoff]
        rfl
      obtain ⟨why, hwhy⟩ := hfound i hi
      obtain rfl := List.mem_singleton.mp (hsub.subset hi)
      refine ⟨why, ?_⟩
      rw [Act.finds, if_pos ⟨rfl, hgreets⟩, ← hcontact, hwhy]

/-- Whatever seeks news, it removes by consent only, and only contacts whose feeds it found gone. -/
theorem byConsent_pass (hs : s.roster.Nodup) (turn : Turn) (hseeks : turn.act.Seeks) :
    ∃ gone, gone.Sublist (turn.act.about s) ∧ ByConsent turn.world gone s (s.pass turn) ∧
      ∀ i ∈ gone, ∃ why, turn.act.finds turn.world s i = some (.error (.gone why)) := by
  obtain ⟨w, act⟩ := turn
  unfold pass
  cases act with
  | check h onRequest =>
    obtain ⟨gone, hsub, hgone, hfound⟩ := byConsent_check hs w h onRequest
    refine ⟨gone, hsub, ?_, fun i hi => ?_⟩
    · simp only [Act.run, exec_discard]
      exact hgone
    · obtain ⟨why, hwhy⟩ := hfound i hi
      exact ⟨why, by rw [Act.finds, if_pos (List.mem_singleton.mp (hsub.subset hi)).symm, hwhy]⟩
  | sweep =>
    obtain ⟨gone, hsub, hgone, hfound⟩ := byConsent_checkAll w hs hs
    refine ⟨gone, hsub, ?_, fun i hi => ?_⟩
    · simp only [Act.run, exec_sweep]
      exact hgone
    · obtain ⟨why, hwhy⟩ := hfound i hi
      exact ⟨why, by rw [Act.finds, if_pos (hsub.subset hi), hwhy]⟩
  | refresh h =>
    obtain ⟨gone, hsub, hgone, hfound⟩ := byConsent_refresh hs w h
    refine ⟨gone, hsub, hgone, fun i hi => ?_⟩
    obtain ⟨why, hwhy⟩ := hfound i hi
    exact ⟨why, by rw [Act.finds, if_pos (List.mem_singleton.mp (hsub.subset hi)).symm, hwhy]⟩
  | send h message => exact byConsent_send hs w h message
  | reportGone h =>
    obtain ⟨gone, hsub, hgone⟩ := byConsent_reportGone hs w h
    refine ⟨gone, hsub, hgone, fun i hi => ⟨"", ?_⟩⟩
    rw [Act.finds, if_pos (List.mem_singleton.mp (hsub.subset hi)).symm]
  | _ => exact hseeks.elim

theorem exists_without (hs : s.roster.Nodup) (w : Outside) {act : Act} (hact : act.Plain) :
    ∃ gone, Without gone s (s.pass ⟨w, act⟩) := by
  have hbound (h : Handle) : TakingBound h (ByConsent w []) := takingBound_byConsent w h
  by_cases hseeks : act.Seeks
  · obtain ⟨gone, _, hgone, _⟩ := byConsent_pass hs ⟨w, act⟩ hseeks
    exact ⟨gone, hgone.toWithout⟩
  · unfold pass
    cases act with
    | unsubscribe h => exact ⟨[h], without_unsubscribe hs h⟩
    | setPresence h p => exact ⟨[], ((hbound h).setPresence p s).toWithout⟩
    | goOffline h =>
      simp only [Act.run, exec_discard]
      exact ⟨[], ((hbound h).goOffline s).toWithout⟩
    | propertyChanged h property old new =>
      exact ⟨[], ((hbound h).propertyChanged w property old new s).toWithout⟩
    | addListener topic listener =>
      refine ⟨[], ?_⟩
      cases topic with
      | messages => exact { Without.refl s with }
      | properties => exact { Without.refl s with }
    | removeListener topic listener =>
      refine ⟨[], ?_⟩
      cases topic with
      | messages => exact { Without.refl s with }
      | properties => exact { Without.refl s with }
    | load | subscribe | register | connect | close | anew | restart => exact hact.elim
    | check | sweep | refresh | send | reportGone => exact absurd trivial hseeks

/-- Seeking news again and again, nobody comes, and whoever leaves had the user's consent to it. -/
theorem without_course (hs : s.roster.Nodup) {turns : List Turn}
    (hseeks : ∀ turn ∈ turns, turn.act.Seeks) :
    ∃ gone, (s.course turns).agreements = s.agreements ++ gone ∧
      Without gone s (s.course turns) := by
  induction turns generalizing s with
  | nil => exact ⟨[], (List.append_nil _).symm, .refl s⟩
  | cons turn rest ih =>
    obtain ⟨gone, _, hgone, _⟩ := byConsent_pass hs turn (hseeks turn (List.mem_cons_self ..))
    obtain ⟨gone', hagreed, hrest⟩ := ih (hgone.nodup hs) fun later hlater =>
      hseeks later (List.mem_cons_of_mem _ hlater)
    refine ⟨gone ++ gone', ?_, hgone.toWithout.trans hrest⟩
    show ((s.pass turn).course rest).agreements = _
    rw [hagreed, hgone.agreements, List.append_assoc]

/-- What becomes of the list and of the table when nothing is done but seeking news. Over the whole
run the contacts that the user agreed to remove are gone from the list, and the rows of those that
were in it from a table that is open and can hold their addresses; nothing else is gone, nothing has
come, and address, persistence, creation and id of every contact are what they were. And in each
turn those who leave were sought in it, online, and found gone, and have gone offline; nobody leaves
unless the user says yes; and rows of addresses that the turn is not about are not touched. -/
theorem leaves_by_consent_only (hs : s.Reachable) (turns : List Turn)
    (hseeks : ∀ turn ∈ turns, turn.act.Seeks) :
    (∃ gone, (s.course turns).agreements = s.agreements ++ gone ∧
        Without gone s (s.course turns)) ∧
      ∀ past turn rest, turns = past ++ turn :: rest →
        let before := s.course past
        let after := before.pass turn
        (∃ gone, ByConsent turn.world gone before after ∧ gone.Sublist (turn.act.about before) ∧
          ∀ h ∈ gone, ∃ why, turn.act.finds turn.world before h = some (.error (.gone why))) ∧
        ((∀ n address, turn.world.answer n address ≠ some (.ok true)) →
          after.roster = before.roster ∧
            after.store.map Store.stubs = before.store.map Store.stubs) ∧
        ∀ address, (∀ h ∈ turn.act.about before, (before.contact h).address ≠ address) →
          after.store.map (·.only address) = before.store.map (·.only address) := by
  have hnodup : s.roster.Nodup := List.Nodup.of_map _ hs.orderly.addresses
  refine ⟨without_course hnodup hseeks, fun past turn rest hsplit => ?_⟩
  have hturn : turn ∈ turns := by
    rw [hsplit]
    exact List.mem_append_right _ (List.mem_cons_self ..)
  obtain ⟨_, _, hpast⟩ := without_course hnodup fun earlier hearlier => hseeks earlier (by
    rw [hsplit]
    exact List.mem_append_left _ hearlier)
  obtain ⟨gone, hsub, hgone, hfound⟩ :=
    byConsent_pass (hpast.nodup hnodup) turn (hseeks turn hturn)
  obtain ⟨feeds, hspared⟩ := sparing_act turn.world (hseeks turn hturn).plain (s.course past)
  refine ⟨⟨gone, hgone, hsub, hfound⟩, fun hno => ?_, fun address ha => hspared.filed ha⟩
  have hnobody : gone = [] := List.eq_nil_iff_forall_not_mem.mpr fun i hi => by
    obtain ⟨n, hyes⟩ := hgone.answered i hi
    exact hno n _ hyes
  rw [hnobody] at hgone
  exact hgone.toWithout.stays

/-- The feed at an address is found gone by a contact that has left, and then by the one that was
subscribed to there later; the user wants both removed. -/
def goneTwice : List Turn :=
  let w := goneWorld (some "a") (.bare [])
  [⟨w, .reportGone 0⟩, ⟨w, .sweep⟩]

/-- The consent to remove a contact that has left does not end the subscription of its successor.
That ends with the consent to its own removal, and its row goes with it. -/
theorem successor_leaves_by_own_consent :
    let s := blank.course (resubscribing true)
    let t := s.course (goneTwice.take 1)
    let u := s.course goneTwice
    s.roster = [1] ∧ t.agreements = [0] ∧ t.roster = [1] ∧ u.agreements = [0, 1] ∧
      u.roster = [] ∧ u.store.map Store.stubs = some [] := by
  intro s t u
  have hseeks : ∀ turn ∈ goneTwice, turn.act.Seeks := by
    intro turn hturn
    rcases List.mem_cons.mp hturn with rfl | hturn
    · trivial
    · rw [List.mem_singleton.mp hturn]
      trivial
  obtain ⟨⟨first, hagreed, hfirst⟩, _⟩ := leaves_by_consent_only reachable_resubscribing
    (goneTwice.take 1) fun turn hturn => hseeks turn (List.take_subset _ _ hturn)
  obtain ⟨⟨both, hagreed', hboth⟩, _⟩ :=
    leaves_by_consent_only reachable_resubscribing goneTwice hseeks
  have hasked : t.agreements = [0] := rfl
  have hasked' : u.agreements = [0, 1] := rfl
  obtain rfl : first = [0] := hagreed.symm.trans hasked
  obtain rfl : both = [0, 1] := hagreed'.symm.trans hasked'
  refine ⟨rfl, hasked, hfirst.roster, hasked', hboth.roster, ?_⟩
  have hstore := hboth.store
  show (s.course goneTwice).store.map Store.stubs = some []
  generalize (s.course goneTwice).store = left at hstore ⊢
  cases hstore with
  | some hlacking =>
    rw [Option.map_some, hlacking.stubs]
    rfl

end Newsroom

end Newswire

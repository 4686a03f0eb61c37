import Newswire.Proofs.Affairs

/-!
What is done with the feed of a contact, told by the affairs of the contact. What the operations of
the newsroom make of them is what becomes of them by themselves: no listener has a part in it, and no
other contact.
-/

namespace Newswire

def Entry.asks (h : Handle) : Entry → Bool
  | .asked about _ _ => about = h
  | _ => false

/-- The affairs of a contact in a newsroom. -/
def Newsroom.affairs (s : Newsroom) (h : Handle) : Affairs where
  contact := s.contact h
  listed := s.roster.count h
  filed := s.store.map (·.only (s.contact h).address)
  asked := s.trace.countP (Entry.asks h)

/-- What the user answers when he is asked whether to remove the contact at an address, `n` questions
having been asked before. There is no answer without a user. -/
def Outside.answer (w : Outside) (n : Nat) (address : Option String) :
    Option (Except Fault Bool) :=
  w.ask.map fun ask => ask n (Newsroom.removalQuestion address)

namespace Newsroom

variable {s t : Newsroom} {h : Handle} {w : Outside}

/-! ### Single steps -/

theorem affairs_withTrace (s : Newsroom) {more : List Entry}
    (hmore : ∀ entry ∈ more, entry.asks h = false) :
    { s with trace := s.trace ++ more }.affairs h = s.affairs h := by
  have hcount : more.countP (Entry.asks h) = 0 :=
    List.countP_eq_zero.mpr fun entry he => by rw [hmore entry he]; exact Bool.false_ne_true
  simp only [affairs, List.countP_append, hcount, Nat.add_zero]

@[simp]
theorem affairs_noting (s : Newsroom) (notes : List Journal.Note) :
    (s.noting notes).affairs h = s.affairs h := by
  refine affairs_withTrace s fun entry he => ?_
  obtain ⟨_, _, rfl⟩ := List.mem_map.mp he
  rfl

@[simp]
theorem affairs_fetching (s : Newsroom) (i : Handle) :
    (s.fetching i).affairs h = s.affairs h := by
  refine affairs_withTrace s fun entry he => ?_
  rw [List.mem_singleton.mp he]
  rfl

theorem keeps_affairs_record {entry : Entry} (he : entry.asks h = false) :
    Keeps (·.affairs h) (record entry) := fun s =>
  affairs_withTrace s fun _ hm => by rw [List.mem_singleton.mp hm, he]

theorem keeps_affairs_note (note : Journal.Note) : Keeps (·.affairs h) (record (.noted note)) :=
  keeps_affairs_record rfl

theorem affairs_edit {c : Contact} (hc : c.address = (s.contact h).address) :
    (s.withContact h c).affairs h = (s.affairs h).withContact c := by
  simp only [affairs, Affairs.withContact, contact_withContact, hc]
  rfl

theorem canFile_affairs_iff {c : Contact} (hc : c.address = (s.contact h).address) :
    (s.affairs h).CanFile c ↔ s.CanSave c := by
  have htakes (store : Store) :
      (store.only (s.contact h).address).Takes c ↔ ∃ t, store.update c = .ok t := by
    rw [← Store.exists_update_iff, ← hc, Store.update_only]
    cases store.update c with
    | error fault => exact ⟨fun ⟨_, ht⟩ => (nomatch ht), fun ⟨_, ht⟩ => (nomatch ht)⟩
    | ok t => exact ⟨fun _ => ⟨t, rfl⟩, fun _ => ⟨t.only c.address, rfl⟩⟩
  constructor
  · intro hcan store hstore hp
    exact (htakes store).mp (hcan _ (congrArg (Option.map _) hstore) hp)
  · intro hcan own hown hp
    obtain ⟨store, hstore, rfl⟩ := Option.map_eq_some_iff.mp hown
    exact (htakes store).mpr (hcan store hstore hp)

theorem exec_save (h : Handle) (s : Newsroom) :
    exec (save h) s = match s.store with
      | none => (.ok (), s)
      | some store =>
        if (s.contact h).persistent then
          match store.update (s.contact h) with
          | .ok store => (.ok (), { s with store := some store })
          | .error fault => (.error fault, s)
        else (.ok (), s) := by
  cases hstore : s.store with
  | none => simp only [save, exec_bind, exec_get, hstore, exec_pure]
  | some store =>
    simp only [save, exec_bind, exec_get, hstore]
    split
    · simp only [exec_bind, exec_lift]
      cases store.update (s.contact h) with
      | error fault => rfl
      | ok store => rfl
    · rfl

theorem affairs_save (h : Handle) (s : Newsroom) :
    ∃ store, exec (save h) s = ((s.affairs h).save.1, { s with store := store }) ∧
      { s with store := store }.affairs h = (s.affairs h).save.2 := by
  have hfiled : (s.affairs h).filed = s.store.map (·.only (s.contact h).address) := rfl
  have hcontact : (s.affairs h).contact = s.contact h := rfl
  rw [exec_save]
  unfold Affairs.save
  rw [hfiled, hcontact]
  cases s.store with
  | none => exact ⟨s.store, rfl, rfl⟩
  | some store =>
    simp only [Option.map_some, Store.update_only]
    split
    · cases store.update (s.contact h) with
      | error fault => exact ⟨s.store, rfl, rfl⟩
      | ok store => exact ⟨some store, rfl, rfl⟩
    · exact ⟨s.store, rfl, rfl⟩

theorem affairs_setPresence (h : Handle) (p : Presence) (s : Newsroom) :
    ∃ (t : Newsroom) (notes : List Journal.Note),
      exec (setPresence h p) s = (((s.affairs h).setPresence p).1, t) ∧
      t.affairs h = ((s.affairs h).setPresence p).2 ∧
      t.trace = s.trace ++ notes.map Entry.noted ∧ t.questions = s.questions := by
  obtain ⟨notes, hset⟩ := exec_setPresence h p s
  let changed : Contact := { s.contact h with presence := p }
  have hchanged : ((s.withContact h changed).noting notes).affairs h
      = (s.affairs h).withContact changed := by
    rw [affairs_noting, affairs_edit (c := changed) rfl]
  obtain ⟨store, hsave, haffairs⟩ := affairs_save h ((s.withContact h changed).noting notes)
  rw [hchanged] at hsave haffairs
  exact ⟨_, notes, hset.trans hsave, haffairs, rfl, rfl⟩

theorem keeps_affairs_tell (w : Outside) (topic : Topic) (about : Handle) (event : Event) :
    Keeps (·.affairs h) (tell w topic about event) := by
  intro s
  let round := (s.audience topic).tell (w.react topic) event
  let told := s.withAudience topic round.audience
  have ht : told.trace = s.trace := by cases topic <;> rfl
  have hrest : told.affairs h = s.affairs h := by cases topic <;> rfl
  rw [exec_tell]
  refine Eq.trans ?_ hrest
  show { told with trace := s.trace ++ _ }.affairs h = told.affairs h
  rw [← ht]
  refine affairs_withTrace told fun entry he => ?_
  rcases List.mem_cons.mp he with rfl | he
  · rfl
  · obtain ⟨_, _, rfl⟩ := List.mem_map.mp he
    rfl

theorem exec_comeBack (h : Handle) (s : Newsroom) :
    ∃ (t : Newsroom) (notes : List Journal.Note),
      exec (comeBack h) s = ((s.affairs h).comeBack.1, t) ∧
      t.affairs h = (s.affairs h).comeBack.2 ∧ t.trace = s.trace ++ notes.map Entry.noted := by
  by_cases hp : (s.contact h).presence = .offline
  · obtain ⟨t, notes, hset, haffairs, htrace, _⟩ := affairs_setPresence h .online s
    have hcome : (s.affairs h).comeBack = (s.affairs h).setPresence .online := if_pos hp
    rw [hcome]
    refine ⟨t, notes, ?_, haffairs, htrace⟩
    simp only [comeBack, exec_bind, exec_contactOf, if_pos hp, hset]
  · have hcome : (s.affairs h).comeBack = (.ok (), s.affairs h) := if_neg hp
    rw [hcome]
    refine ⟨s, [], ?_, rfl, (List.append_nil _).symm⟩
    simp only [comeBack, exec_bind, exec_contactOf, if_neg hp, exec_pure]

/-! ### Looking at a feed -/

/-- Whoever is told, the affairs of a contact that is announced are those of a contact saved if it
has changed. Nobody was told if saving it failed. -/
theorem affairs_announce (w : Outside) (h : Handle) (old : Value) (feed : Feed) (news : News)
    (onRequest : Bool) (s : Newsroom) :
    let recorded := (s.affairs h).record (!feed.title.same old || news.fresh.isSome)
    (exec (announce w h old feed news onRequest) s).2.affairs h = recorded.2 ∧
      ∀ fault, recorded.1 = .error fault →
        (exec (announce w h old feed news onRequest) s).1 = .error fault ∧
          (exec (announce w h old feed news onRequest) s).2.trace = s.trace := by
  have hnews : Keeps (·.affairs h) (tellNews w h feed news onRequest) := by
    unfold tellNews
    refine .ite ?_ (.pure _)
    refine .ite (.bind (keeps_affairs_record rfl) fun _ => ?_) ?_
    all_goals exact .bind (fun _ => rfl) fun _ => keeps_affairs_tell w _ h _
  have hrest : Keeps (·.affairs h) (do
      tellNews w h feed news onRequest
      pure (Outcome.of old feed news onRequest)) := hnews.bind fun _ => .pure _
  obtain ⟨store, hsave, haffairs⟩ := affairs_save h s
  unfold announce tellChange propertyChanged Affairs.record
  split
  · have htold : Keeps (·.affairs h) (do
        tell w .properties h (.changed (← contactOf h) Event.nameProperty old feed.title)
        tellNews w h feed news onRequest
        pure (Outcome.of old feed news onRequest)) :=
      .bind (fun _ => rfl) fun _ => (keeps_affairs_tell w _ h _).bind fun _ => hrest
    simp only [bind_assoc] at htold ⊢
    rw [exec_bind]
    rw [hsave, ← haffairs]
    cases (s.affairs h).save.1 with
    | error fault =>
      exact ⟨rfl, fun fault' hfault => ⟨congrArg _ (Except.error.inj hfault), rfl⟩⟩
    | ok _ => exact ⟨htold _, fun fault hfault => nomatch hfault⟩
  · exact ⟨hrest s, fun fault hfault => nomatch hfault⟩

theorem exec_takeIn_cases (w : Outside) (h : Handle) (feed : Feed) (onRequest : Bool)
    (s : Newsroom) :
    ∃ (t : Newsroom) (notes : List Journal.Note), t.trace = s.trace ++ notes.map Entry.noted ∧
      ((∃ fault, (s.affairs h).takeIn feed = (.error fault, t.affairs h) ∧
          exec (takeIn w h feed onRequest) s = (.error fault, t)) ∨
        ∃ news, (s.affairs h).takeIn feed
            = (t.affairs h).record (!feed.title.same (s.contact h).name || news.fresh.isSome) ∧
          exec (takeIn w h feed onRequest) s
            = exec (announce w h (s.contact h).name feed news onRequest) t) := by
  obtain ⟨warnings, hwarn⟩ := exec_warnings feed
    (fun warning => feedText (addressText (s.contact h).address) ++ ": " ++ warning) s
  obtain ⟨t, notes, hback, haffairs, htrace⟩ := exec_comeBack h (s.noting warnings)
  have htrace : t.trace = s.trace ++ (warnings ++ notes).map Entry.noted := by
    rw [htrace, List.map_append, ← List.append_assoc]
    rfl
  rw [affairs_noting] at hback haffairs
  have hcontact : t.contact h = (s.contact h).online :=
    (congrArg Affairs.contact haffairs).trans (Affairs.contact_comeBack _)
  rw [takeIn_eq]
  simp only [exec_bind, exec_contactOf, hwarn, hback]
  cases hcome : (s.affairs h).comeBack.1 with
  | error fault =>
    have hstuck : (s.affairs h).comeBack = (.error fault, t.affairs h) :=
      Prod.ext hcome haffairs.symm
    exact ⟨t, _, htrace, .inl ⟨fault, Affairs.takeIn_of_stuck hstuck feed, rfl⟩⟩
  | ok _ =>
    have hmarker : (t.contact h).marker = (s.contact h).marker := by rw [hcontact]; rfl
    simp only [exec_edit, exec_lift]
    cases hnews : feed.news (t.contact h).marker with
    | error fault =>
      let named : Contact := { t.contact h with name := feed.title }
      have hnamed : (t.withContact h named).affairs h
          = (s.affairs h).comeBack.2.withContact { (s.contact h).online with name := feed.title } := by
        rw [affairs_edit (c := named) rfl, haffairs, ← hcontact]
      refine ⟨t.withContact h named, _, htrace, .inl ⟨fault, ?_, rfl⟩⟩
      rw [hmarker] at hnews
      rw [hnamed]
      exact Affairs.takeIn_of_no_news hcome hnews
    | ok news =>
      let u := t.withContact h ((s.contact h).takingIn feed news.fresh)
      have htaken : u.affairs h
          = (s.affairs h).comeBack.2.withContact ((s.contact h).takingIn feed news.fresh) := by
        rw [affairs_edit (c := (s.contact h).takingIn feed news.fresh) (by rw [hcontact]; rfl),
          haffairs]
      have hrun := exec_marking t h (s.contact h) feed news.fresh
        (announce w h (s.contact h).name feed news onRequest)
      rw [hmarker] at hnews
      refine ⟨u, _, htrace, .inr ⟨news, ?_, ?_⟩⟩
      · rw [htaken]
        exact Affairs.takeIn_of_news hcome hnews
      · rw [hcontact]
        exact hrun

theorem affairs_takeIn (w : Outside) (h : Handle) (feed : Feed) (onRequest : Bool) (s : Newsroom) :
    let taken := (s.affairs h).takeIn feed
    (exec (takeIn w h feed onRequest) s).2.affairs h = taken.2 ∧
      ∀ fault, taken.1 = .error fault →
        (exec (takeIn w h feed onRequest) s).1 = .error fault ∧
          ∃ notes : List Journal.Note,
            (exec (takeIn w h feed onRequest) s).2.trace = s.trace ++ notes.map Entry.noted := by
  obtain ⟨t, notes, htrace, ⟨fault, htaken, hrun⟩ | ⟨news, htaken, hrun⟩⟩ :=
    exec_takeIn_cases w h feed onRequest s
  · rw [htaken, hrun]
    exact ⟨rfl, fun _ hfault => ⟨congrArg _ (Except.error.inj hfault), notes, htrace⟩⟩
  · rw [htaken, hrun]
    obtain ⟨hafter, hfailed⟩ := affairs_announce w h (s.contact h).name feed news onRequest t
    refine ⟨hafter, fun fault hfault => ?_⟩
    obtain ⟨hresult, htold⟩ := hfailed fault hfault
    exact ⟨hresult, notes, htold.trans htrace⟩

/-! ### Feeds that are gone -/

theorem exec_unsubscribe (h : Handle) (s : Newsroom) :
    exec (unsubscribe h) s =
      if h ∉ s.roster then (.error (.notSubscribed (s.contact h).address), s)
      else
        let off := { s with roster := s.roster.erase h }
        let text := "Unsubscribed from " ++ addressText (s.contact h).address
        match s.store with
        | none => (.ok (), off.noting [⟨.info, .roster, text, none⟩])
        | some store =>
          match store.delete (s.contact h).address with
          | .error fault => (.error fault, off)
          | .ok (_, store) =>
            (.ok (), { off with store := some store }.noting [⟨.info, .roster, text, none⟩]) := by
  unfold unsubscribe
  rw [exec_bind, exec_get]
  dsimp only
  split
  · rfl
  · rw [exec_bind, exec_modify]
    cases hstore : s.store with
    | none => rfl
    | some store =>
      simp only [exec_bind, exec_lift]
      cases store.delete (s.contact h).address with
      | error fault => rfl
      | ok found => simp only [exec_modify, exec_note]

/-- What is left of the affairs of a contact that is removed, wherever its removal ends. -/
theorem affairs_unsubscribe (h : Handle) (s : Newsroom) :
    (exec (unsubscribe h) s).2.affairs h = (s.affairs h).remove := by
  rw [exec_unsubscribe]
  unfold Affairs.remove
  by_cases hm : h ∈ s.roster
  · have hlisted : (s.affairs h).listed ≠ 0 := by
      show s.roster.count h ≠ 0
      rwa [ne_eq, List.count_eq_zero, not_not]
    rw [if_neg (not_not.mpr hm), if_neg hlisted]
    have hoff (store : Option Store) :
        { s with roster := s.roster.erase h, store := store }.affairs h
        = { s.affairs h with
            listed := (s.affairs h).listed - 1
            filed := store.map (·.only (s.contact h).address) } := by
      simp only [affairs, List.count_erase_self]
    have hfiled : (s.affairs h).filed = s.store.map (·.only (s.contact h).address) := rfl
    have hcontact : (s.affairs h).contact = s.contact h := rfl
    rw [hfiled, hcontact]
    cases s.store with
    | none =>
      rw [affairs_noting]
      exact hoff none
    | some store =>
      simp only [Option.map_some, Store.delete_only]
      cases hdelete : store.delete (s.contact h).address with
      | error fault => exact hoff (some store)
      | ok found =>
        rw [affairs_noting]
        exact hoff (some found.2)
  · have hlisted : (s.affairs h).listed = 0 := List.count_eq_zero.mpr hm
    rw [if_pos hm, if_pos hlisted]

theorem exists_removeDead_eq (h : Handle) (s : Newsroom) :
    ∃ notes : List Journal.Note,
      (exec (removeDead h) s).2 = (exec (unsubscribe h) s).2.noting notes := by
  unfold removeDead
  rw [exec_tryCatch]
  rcases exec (unsubscribe h) s with ⟨fault | _, t⟩
  · dsimp only
    split
    · next address =>
      exact ⟨[⟨.info, .refresh,
        "We could not remove a dead contact: " ++ (Fault.notSubscribed address).message, none⟩],
        rfl⟩
    · exact ⟨[], (noting_nil t).symm⟩
  · exact ⟨[], (noting_nil t).symm⟩

theorem affairs_removeDead (h : Handle) (s : Newsroom) :
    (exec (removeDead h) s).2.affairs h = (s.affairs h).remove := by
  obtain ⟨notes, hremoved⟩ := exists_removeDead_eq h s
  rw [hremoved, affairs_noting, affairs_unsubscribe]

theorem exec_recover (w : Outside) (h : Handle) (s : Newsroom) :
    exec (recover w h) s =
      if (s.contact h).presence = .offline then (.ok (), s)
      else
        match exec (setPresence h .offline) s with
        | (.error fault, t) => (.error fault, t)
        | (.ok (), t) =>
          match w.ask with
          | none => (.ok (), t)
          | some ask =>
            let question := removalQuestion (t.contact h).address
            let answer := ask t.questions question
            let asked := { t with
              questions := t.questions + 1
              trace := t.trace ++ [.asked h question answer] }
            match answer with
            | .ok true => exec (removeDead h) asked
            | .ok false => (.ok (), asked)
            | .error fault => exec (noteFault .refresh
                ("Could not ask about removing " ++ addressText (t.contact h).address) fault)
              asked := by
  unfold recover goOffline
  by_cases hp : (s.contact h).presence = .offline
  · simp only [exec_bind, exec_contactOf, if_pos hp, exec_pure]
    rfl
  · simp only [exec_bind, exec_contactOf, if_neg hp]
    rcases exec (setPresence h .offline) s with ⟨fault | _, t⟩
    · rfl
    · simp only [exec_pure, if_true]
      cases w.ask with
      | none => rfl
      | some ask =>
        simp only [exec_bind, exec_get, exec_modify, exec_record]
        rcases ask t.questions (removalQuestion (t.contact h).address) with fault | _ | _
        · rfl
        · rfl
        · rfl

theorem affairs_recover (w : Outside) (h : Handle) (s : Newsroom) :
    (exec (recover w h) s).2.affairs h
      = (s.affairs h).recover (w.answer s.questions (s.contact h).address) := by
  rw [exec_recover]
  unfold Affairs.recover
  by_cases hp : (s.contact h).presence = .offline
  · have hp' : (s.affairs h).contact.presence = .offline := hp
    rw [if_pos hp, if_pos hp']
  · have hp' : ¬ (s.affairs h).contact.presence = .offline := hp
    rw [if_neg hp, if_neg hp']
    obtain ⟨t, notes, hset, haffairs, _, hquestions⟩ := affairs_setPresence h .offline s
    rw [hset]
    rcases hoff : (s.affairs h).setPresence .offline with ⟨fault | _, a⟩
    · rw [hoff] at haffairs
      exact haffairs
    · rw [hoff] at haffairs
      obtain rfl : t.affairs h = a := haffairs
      have haddress : (t.contact h).address = (s.contact h).address := by
        have hcontact := Affairs.contact_setPresence (s.affairs h) .offline
        rw [hoff] at hcontact
        exact (congrArg Contact.address hcontact :)
      unfold Affairs.ask Outside.answer
      cases w.ask with
      | none => rfl
      | some ask =>
        let question := removalQuestion (s.contact h).address
        have hasked (answer : Except Fault Bool) :
            { t with
              questions := s.questions + 1
              trace := t.trace ++ [Entry.asked h question answer] }.affairs h
              = { t.affairs h with asked := (t.affairs h).asked + 1 } := by
          simp only [affairs, List.countP_append, List.countP_singleton, Entry.asks,
            decide_true, if_true]
        simp only [Option.map_some, haddress, hquestions]
        generalize hanswer : ask s.questions question = answer
        rw [← hasked answer]
        rcases answer with fault | _ | _
        · exact keeps_affairs_note _ _
        · rfl
        · exact affairs_removeDead h _
theorem exists_background_eq (name : String) (work : Engine Unit) (s : Newsroom) :
    ∃ notes : List Journal.Note,
      (exec (background name work) s).2 = (exec work s).2.noting notes := by
  unfold background
  rw [exec_tryCatch]
  rcases exec work s with ⟨fault | _, t⟩
  · exact ⟨[⟨.error, .refresh, name ++ " worker failed", some fault⟩], rfl⟩
  · exact ⟨[], (noting_nil t).symm⟩

theorem affairs_reportGone (w : Outside) (h : Handle) (s : Newsroom) :
    (exec (reportGone w h) s).2.affairs h
      = (s.affairs h).recover (w.answer s.questions (s.contact h).address) := by
  obtain ⟨notes, hreported⟩ := exists_background_eq "feed-not-found" (recover w h) s
  rw [reportGone, hreported, affairs_noting, affairs_recover]

theorem exists_check_eq_of_gone {why : String}
    (hfetch : w.fetch (s.contact h).address = .error (.gone why)) (onRequest : Bool) :
    ∃ notes : List Journal.Note, (exec (check w h onRequest) s).2
      = (exec (reportGone w h) ((s.fetching h).noting notes)).2 := by
  refine ⟨[⟨.warning, .refresh,
    feedText (addressText (s.contact h).address) ++ " no longer exists: " ++ why, none⟩], ?_⟩
  simp only [check, exec_bind, exec_contactOf, exec_fetched, hfetch, exec_note]
  split
  · next hreported => rw [hreported]; rfl
  · next hreported => rw [hreported]

/-- What becomes of the affairs of a contact whose feed is looked at. -/
theorem affairs_check (w : Outside) (h : Handle) (onRequest : Bool) (s : Newsroom) :
    (exec (check w h onRequest) s).2.affairs h
      = (s.affairs h).look (w.fetch (s.contact h).address)
        (w.answer s.questions (s.contact h).address) := by
  have hstart : (s.fetching h).affairs h = s.affairs h := affairs_fetching s h
  cases hfetch : w.fetch (s.contact h).address with
  | ok feed =>
    rw [exec_check_of_fetch hfetch]
    dsimp only
    rw [(affairs_takeIn w h feed onRequest _).1, hstart]
    rfl
  | error fault =>
    cases fault with
    | gone why =>
      obtain ⟨notes, hgone⟩ := exists_check_eq_of_gone hfetch onRequest
      rw [hgone, affairs_reportGone, affairs_noting, hstart]
      rfl
    | unreadable why =>
      simp only [check, exec_bind, exec_contactOf, exec_fetched, hfetch, exec_note, exec_pure]
      exact (affairs_noting _ _).trans hstart
    | _ =>
      simp only [check, exec_bind, exec_contactOf, exec_fetched, hfetch]
      exact hstart

theorem affairs_refresh (w : Outside) (h : Handle) (s : Newsroom) :
    (exec (refresh w h) s).2.affairs h
      = (s.affairs h).look (w.fetch (s.contact h).address)
        (w.answer s.questions (s.contact h).address) := by
  obtain ⟨notes, hrefreshed⟩ := exists_background_eq "feed-refresh" (discard (check w h true)) s
  rw [refresh, hrefreshed, affairs_noting, exec_discard, affairs_check]

end Newsroom

end Newswire

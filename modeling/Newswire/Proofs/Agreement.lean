import Newswire.Proofs.Looking
import Newswire.Proofs.Selection

/-!
Detection, selection and wording. Whether a feed has news is told by the marker of its newest item,
which items are new by a walk over all of them, and what the message says by these items alone. The
three agree for every marker, of either kind or none, and so does whatever a look makes of them.
-/

namespace Newswire

namespace Newsroom

/-- A feed has news for someone exactly when some of its items are newer than his marker, and
exactly then its message says more than that there are none. Whatever fails during a look, the
message is about these items or none is sent; a look that comes to an outcome reports news exactly
when there are such items, and sends the message when it does or when the user asked. -/
theorem detection_selection_wording {feed : Feed} {seen : Option Marker} (hs : feed.Sound seen) :
    ∃ items body, feed.since seen = .ok items ∧ Html.body items = .ok body ∧
      feed.hasNews seen = .ok (!items.isEmpty) ∧ (items ≠ [] ↔ body ≠ Html.noNews) ∧
      ∀ (w : Outside) (h : Handle) (onRequest : Bool) (s t : Newsroom)
        (r : Except Fault (Option Outcome)), (s.contact h).marker = seen →
        w.fetch (s.contact h).address = .ok feed → exec (check w h onRequest) s = (r, t) →
        let messages := if !items.isEmpty || onRequest then [Message.html body] else []
        (t.received h = s.received h ∨ t.received h = s.received h ++ messages) ∧
          (∀ o, r = .ok o → t.received h = s.received h ++ messages ∧
            ∃ outcome, o = some outcome ∧ outcome.hasNews = !items.isEmpty) ∧
          (Untroubled w s h feed → ∃ o, r = .ok o) := by
  obtain ⟨news, hnews, htells⟩ := hs.exists_news
  have hrenders : ∀ item ∈ feed.selection seen, item.Renders := fun item hi =>
    hs.renders item (Feed.selection_subset feed seen hi)
  obtain ⟨body, hbody, hwording⟩ := Html.exists_body hrenders
  have hnewsBody : news.body = body := Except.ok.inj (htells.body.symm.trans hbody)
  refine ⟨feed.selection seen, body, hs.since_eq, hbody, ?_, (not_congr hwording).symm, ?_⟩
  · rw [Feed.hasNews_eq_of_news hnews, htells.fresh]
  · rintro w h onRequest s t r rfl hfetch he
    have hsent : sent news onRequest =
        if !(feed.selection (s.contact h).marker).isEmpty || onRequest then [Message.html body]
        else [] := by
      rw [sent, htells.fresh, hnewsBody]
    obtain ⟨hmessages, houtcome⟩ := check_of_news hfetch hnews he
    rw [hsent] at hmessages houtcome
    refine ⟨hmessages, fun o ho => ?_, fun hu => ?_⟩
    · obtain ⟨ho, hreceived⟩ := houtcome o ho
      exact ⟨hreceived, _, ho, htells.fresh⟩
    · have hok := exec_check_fst hfetch hnews hu onRequest
      rw [he] at hok
      exact ⟨_, hok⟩

/-- Someone who has seen an item under another spelling of its name is told of the one before it. -/
theorem wording_of_one_bare_item :
    ∃ body, Html.body [.bare "b"] = .ok body ∧ body ≠ Html.noNews ∧
      (Feed.bare ["b", "a"]).hasNews (some (.token (.text "A"))) = .ok true := by
  have hs : (Feed.bare ["b", "a"]).Sound (some (.token (.text "A"))) :=
    Feed.sound_bare _ fun _ htoken => by cases htoken; exact ⟨_, rfl⟩
  obtain ⟨items, body, hsince, hbody, hnews, hwording, _⟩ := detection_selection_wording hs
  have hitems : [Item.bare "b"] = items := Except.ok.inj hsince
  subst hitems
  exact ⟨body, hbody, hwording.mp (List.cons_ne_nil _ _), hnews⟩

end Newsroom

end Newswire

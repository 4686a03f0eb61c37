import Newswire.Feed.Html

/-!
What a feed has to tell someone who has seen it before.
-/

namespace Newswire

/-- The body of a message about the items that are new, and the marker of the newest of them if
there is one. -/
structure News where
  body : String
  fresh : Option Marker

def Feed.news (feed : Feed) (seen : Option Marker) : Except Fault News := do
  let body ← Html.body (← feed.since seen)
  match ← feed.newest with
  | none => pure ⟨body, none⟩
  | some marker =>
    let newer ← marker.newerThan seen
    pure ⟨body, if newer then some marker else none⟩

end Newswire

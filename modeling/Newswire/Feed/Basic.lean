import Newswire.Marker

/-!
Feeds: a title and items, newest first. A feed is dated when all its items are; its newest item is
then the one with the latest date, otherwise the first one.
-/

namespace Newswire

/-- An item of a feed. A field that is absent is told from one that holds nothing. -/
structure Item where
  guid : Option Value
  title : Option Value
  link : Option Value
  summary : Option Value
  published : Option (Option Moment)

def Item.empty : Item := ⟨none, none, none, none, none⟩

structure Feed where
  title : Value
  items : List Item
  warnings : List String

def required {α : Type} (name : String) : Option α → Except Fault α
  | some a => .ok a
  | none => .error (.missingField name)

namespace Feed

/-- The dates of the items, if all of them have one. The first item without a date decides. -/
def dates? : List Item → Except Fault (Option (List Moment))
  | [] => .ok (some [])
  | item :: rest => do
    match ← required "published_at" item.published with
    | none => pure none
    | some date => return (← dates? rest).map (date :: ·)

/-- A feed is dated when it has items and all of them have a date. -/
def isDated (feed : Feed) : Except Fault Bool :=
  if feed.items.isEmpty then .ok false else (dates? feed.items).map Option.isSome

def latest (best : Moment) : List Moment → Except Fault Moment
  | [] => .ok best
  | date :: rest => do
    if ← (date.later? best).mapError .moment then latest date rest else latest best rest

def newest (feed : Feed) : Except Fault (Option Marker) := do
  match feed.items, ← dates? feed.items with
  | [], _ => pure none
  | _, some (date :: rest) => return some (.date (← latest date rest))
  | first :: _, _ => return some (.token (← required "guid" first.guid))

def laterThan (date : Moment) : List (Item × Moment) → Except Fault (List Item)
  | [] => .ok []
  | (item, own) :: rest => do
    let later ← (own.later? date).mapError .moment
    let others ← laterThan date rest
    pure (if later then item :: others else others)

/-- The items before the one with the token; none if no item has it. -/
def before? (token : Value) : List Item → Except Fault (Option (List Item))
  | [] => .ok none
  | item :: rest => do
    if ← Marker.tokenMatches token (← required "guid" item.guid) then pure (some [])
    else return (← before? token rest).map (item :: ·)

/-- The items that are newer than a marker. All of them are when there is no marker yet, when it is
of the other kind, or when no item has its token. -/
def since (feed : Feed) (marker : Option Marker) : Except Fault (List Item) := do
  match ← dates? feed.items, marker with
  | some dates, some (.date date) => laterThan date (feed.items.zip dates)
  | none, some (.token token) => return (← before? token feed.items).getD feed.items
  | _, _ => pure feed.items

end Feed

end Newswire

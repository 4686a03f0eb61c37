import Newswire.Feed.Address
import Newswire.Feed.Basic
import Newswire.Feed.Document

/-!
Reading a feed from the document found at its address. The answer of the server, the title and the
entries are looked at in this order; an entry that cannot be read is left out with a warning.
-/

namespace Newswire.Reading

def itemLimit : Nat := 50

def goneStatuses : List Int := [404, 410]

def lockedStatuses : List Int := [401, 403]

/-! ### Entries -/

def fitsWord (n : Int) : Bool :=
  -0x80000000 ≤ n && n < 0x80000000

/-- The numbers of a broken-down time: none if one is too large, which a part that is no number
before it prevents. -/
def numbers? : List Value → Except Misuse (Option (List Int))
  | [] => .ok (some [])
  | v :: rest =>
    match v.integer? with
    | none => .error (.notInteger v.kind)
    | some n => if fitsWord n then (numbers? rest).map (·.map (n :: ·)) else .ok none

def ofNumbers? : List Int → Option Moment
  | [y, mo, d, h, mi, s] =>
    if 0 ≤ y ∧ 0 ≤ mo ∧ 0 ≤ d ∧ 0 ≤ h ∧ 0 ≤ mi ∧ 0 ≤ s then
      Moment.utc? y.toNat mo.toNat d.toNat h.toNat mi.toNat s.toNat
    else none
  | _ => none

/-- The moment that a field of an entry gives; none if it is no broken-down time, or one of no
day. -/
def stampDate? (v : Value) : Except Misuse (Option Moment) :=
  match v with
  | .stamp parts => return (← numbers? (parts.take 6)).bind ofNumbers?
  | _ => .ok none

/-- The date of an entry, in universal time: when it was published, or else when it was updated. -/
def entryDate? (entry : Value) : Except Misuse (Option Moment) := do
  match ← stampDate? (← Document.getOrNull entry "published_parsed") with
  | some date => pure (some date)
  | none => stampDate? (← Document.getOrNull entry "updated_parsed")

/-- The first of the fields that says something, or the last one. -/
def firstTelling (entry : Value) : List String → Except Misuse Value
  | [] => .ok .null
  | [name] => Document.getOrNull entry name
  | name :: rest => do
    let v ← Document.getOrNull entry name
    if v.truthy then pure v else firstTelling entry rest

def guidFields : List String := ["id", "guid", "link"]

/-- An entry as an item, or the warning that it has nothing to tell it by. -/
def item (entry : Value) : Except Misuse (Item ⊕ String) := do
  let guid ← firstTelling entry guidFields
  if guid.truthy then
    return .inl {
      guid := some guid
      title := some ((← Document.get entry "title").getD (.text "Untitled"))
      link := some (← Document.getOrNull entry "link")
      summary := some (← firstTelling entry ["summary", "description"])
      published := some (← entryDate? entry) }
  else
    let title := (← Document.get entry "title").getD (.text "unknown")
    return .inr ("Skipping entry with no identifier: " ++ title.shown)

def itemOrWarning (entry : Value) : Item ⊕ String :=
  match item entry with
  | .ok found => found
  | .error misuse => .inr ("Skipping malformed entry: " ++ misuse.message)

def leftOf {α β : Type} : α ⊕ β → Option α
  | .inl a => some a
  | .inr _ => none

def rightOf {α β : Type} : α ⊕ β → Option β
  | .inl _ => none
  | .inr b => some b

def notOlder (a b : Item) : Bool :=
  match a.published.bind id, b.published.bind id with
  | some x, some y => y.instant ≤ x.instant
  | _, _ => true

/-- Newest first when every item has a date, otherwise as they are; items of one date keep their
order. -/
def ordered (items : List Item) : List Item :=
  if items.all fun i => (i.published.bind id).isSome then items.mergeSort notOlder else items

def items (entries : List Value) : List Item × List String :=
  let read := entries.map itemOrWarning
  (ordered (read.filterMap leftOf), read.filterMap rightOf)

/-- The items of some entries, and the warnings so far followed by those about the entries. -/
def extract (entries : List Value) (warnings : List String) : List Item × List String :=
  let (found, more) := items entries
  (found, warnings ++ more)

/-! ### The document -/

def among (v : Value) (numbers : List Int) : Bool :=
  numbers.any fun n => v.same (.int n)

/-- Is the value a number of at least 400? Only numbers can be set against one. -/
def refused (status : Value) : Except Misuse Bool :=
  match status with
  | .int n => .ok (400 ≤ n)
  | .float x => .ok (400.0 ≤ x)
  | .bool _ => .ok false
  | v => .error (.notOrdered v.kind)

/-- What the answer of the server means for the feed; no answer stands for success. -/
def checkStatus (document : Value) : Except Fault Unit := do
  let status := (← (Document.get document "status").mapError .misuse).getD (.int 200)
  if among status goneStatuses then
    throw (.gone ("Feed no longer exists: HTTP " ++ status.shown))
  else if among status lockedStatuses then
    throw (.unreadable "Feed requires authentication. Ensure the URL is publicly accessible.")
  else if ← (refused status).mapError .misuse then
    throw (.unreadable ("Could not reach URL: HTTP " ++ status.shown))

def feed (document : Value) : Except Fault Feed := do
  checkStatus document
  let lift {α : Type} (x : Except Misuse α) : Except Fault α := x.mapError .misuse
  let channel ← lift (Document.member document "feed")
  let title ← lift (Document.getOrNull channel "title")
  let odd := (← lift (Document.getOrNull document "bozo")).truthy
  let trouble ← lift (Document.getOrNull document "bozo_exception")
  if !title.truthy then
    if odd && trouble.truthy then
      throw (.unreadable ("Could not read feed: " ++ trouble.shown))
    throw (.unreadable "URL does not point to a valid RSS or Atom feed")
  let entries ← lift (Document.elements (← lift (Document.member document "entries")))
  let (found, warnings) := extract entries
    (if odd then ["Feed has formatting issues: " ++ trouble.shown] else [])
  pure { title := title, items := found.take itemLimit, warnings := warnings }

def fetch (document : Value) (address : Option String) : Except Fault Feed := do
  (Address.check address).mapError fun r => .unreadable r.message
  feed document

end Newswire.Reading

import Newswire.Feed.Basic

/-!
The body of a message about new items, as HTML. The oldest item comes first. Titles and links are
escaped, so that they cannot bring markup of their own; a summary is markup and stands as it is.
-/

namespace Newswire.Html

def escapeChar (c : Char) : List Char :=
  if c = '&' then "&amp;".toList
  else if c = '<' then "&lt;".toList
  else if c = '>' then "&gt;".toList
  else if c = '\x22' then "&quot;".toList
  else if c = '\x27' then "&#x27;".toList
  else [c]

def escape (s : String) : String :=
  String.ofList (s.toList.flatMap escapeChar)

def escapeValue (v : Value) : Except Fault String :=
  ((v.asText "replace").mapError .misuse).map escape

/-- A field that says something. -/
def telling? (field : Option Value) : Option Value :=
  field.filter Value.truthy

/-- The title of an item, which leads to its link if it has one. -/
def heading (item : Item) : Except Fault String := do
  let title ← escapeValue (← required "title" item.title)
  match telling? item.link with
  | none => pure title
  | some link => return "<a href=\"" ++ (← escapeValue link) ++ "\">" ++ title ++ "</a>"

def itemParts (item : Item) : Except Fault (List Value) := do
  let title ← heading item
  let date := (item.published.bind id).map fun m => Value.text ("<i>" ++ m.short ++ " UTC</i>")
  pure (.text ("<b>" ++ title ++ "</b>") :: date.toList ++ (telling? item.summary).toList ++
    [.text "<br>"])

def allParts : List Item → Except Fault (List Value)
  | [] => .ok []
  | item :: rest => do
    let here ← itemParts item
    return here ++ (← allParts rest)

/-- The lines as texts; `position` counts those before. -/
def texts (position : Nat) : List Value → Except Fault (List String)
  | [] => .ok []
  | .text s :: rest => (texts (position + 1) rest).map (s :: ·)
  | v :: _ => .error (.misuse (.notText position v.kind))

def lineBreak : String := "<br>\n"

def noNews : String := "<i>No new items.</i>"

/-- The body of a message about items that are given newest first. -/
def body (items : List Item) : Except Fault String := do
  if items.isEmpty then pure noNews
  else
    let parts ← allParts items.reverse
    return lineBreak.intercalate (← texts 0 parts)

end Newswire.Html

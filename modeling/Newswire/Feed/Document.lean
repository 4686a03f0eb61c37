import Newswire.Value

/-!
Looking up the fields of a document. Feeds of different formats call the same thing by different
names, so a field is looked up under its alias first and then as it is written.
-/

namespace Newswire.Document

def names : String → List String
  | "guid" => ["id", "guid"]
  | "description" => ["summary", "subtitle", "description"]
  | "updated_parsed" => ["updated_parsed", "published_parsed"]
  | name => [name]

def field? (fields : List (String × Value)) (name : String) : Option Value :=
  (names name).findSome? (List.lookup · fields)

/-- The field of a value, which must be a record; none if it is not there. -/
def get (v : Value) (name : String) : Except Misuse (Option Value) :=
  match v with
  | .record fields => .ok (field? fields name)
  | v => .error (.noMember v.kind "get")

def getOrNull (v : Value) (name : String) : Except Misuse Value :=
  (get v name).map (·.getD .null)

def member (v : Value) (name : String) : Except Misuse Value :=
  match v with
  | .record fields =>
    match field? fields name with
    | some found => .ok found
    | none => .error (.noMember .record name)
  | v => .error (.noMember v.kind name)

/-- What a value yields one by one: the members of a list, the letters of a text, the names of a
record's fields. -/
def elements : Value → Except Misuse (List Value)
  | .list items | .tuple items | .stamp items => .ok items
  | .text s => .ok ((Text.codes s).map fun n => .text (Text.ofCodes [n]))
  | .record fields => .ok (fields.map fun f => .text f.1)
  | v => .error (.notIterable v.kind)

end Newswire.Document

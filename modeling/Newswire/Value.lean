import Newswire.Double.Shortest
import Newswire.Text.Case
import Newswire.Text.Quoted

/-!
Values as a feed document holds them. Nothing about their sorts is promised, so each use of a value
says what it needs and a value of another sort is a misuse.
-/

namespace Newswire

/-- A value of a document. A stamp is a time broken down into its nine parts; a fault is what went
wrong when the document was read. -/
inductive Value where
  | null
  | bool (b : Bool)
  | int (n : Int)
  | float (x : Float)
  | text (s : String)
  | list (items : List Value)
  | record (fields : List (String × Value))
  | stamp (parts : List Value)
  | tuple (parts : List Value)
  | fault (reason : String)

instance : Inhabited Value := ⟨.null⟩

inductive Kind where
  | null | bool | int | float | text | list | record | stamp | tuple | fault
deriving DecidableEq

def Kind.name : Kind → String
  | .null => "NoneType"
  | .bool => "bool"
  | .int => "int"
  | .float => "float"
  | .text => "str"
  | .list => "list"
  | .record => "FeedParserDict"
  | .stamp => "time.struct_time"
  | .tuple => "tuple"
  | .fault => "Exception"

inductive Misuse where
  | noMember (kind : Kind) (member : String)
  | notIterable (kind : Kind)
  | notInteger (kind : Kind)
  | notOrdered (kind : Kind)
  | notText (position : Nat) (kind : Kind)
  | notCallable (kind : Kind)
deriving DecidableEq

def Misuse.message : Misuse → String
  | .noMember .record member => "object has no attribute '" ++ member ++ "'"
  | .noMember kind member => "'" ++ kind.name ++ "' object has no attribute '" ++ member ++ "'"
  | .notIterable kind => "'" ++ kind.name ++ "' object is not iterable"
  | .notInteger kind => "'" ++ kind.name ++ "' object cannot be interpreted as an integer"
  | .notOrdered kind => "'>=' not supported between instances of '" ++ kind.name ++ "' and 'int'"
  | .notText position kind =>
    "sequence item " ++ toString position ++ ": expected str instance, " ++ kind.name ++ " found"
  | .notCallable kind => "'" ++ kind.name ++ "' object is not callable"

namespace Value

def kind : Value → Kind
  | null => .null
  | bool _ => .bool
  | int _ => .int
  | float _ => .float
  | text _ => .text
  | list _ => .list
  | record _ => .record
  | stamp _ => .stamp
  | tuple _ => .tuple
  | fault _ => .fault

/-- Does the value say anything? Null, false, nought and what is empty do not. -/
def truthy : Value → Bool
  | null => false
  | bool b => b
  | int n => n != 0
  | float x => !(x == 0.0)
  | text s => !s.isEmpty
  | list items => !items.isEmpty
  | record fields => !fields.isEmpty
  | stamp _ => true
  | tuple parts => !parts.isEmpty
  | fault _ => true

/-- The value as a whole number: booleans count as 0 and 1. -/
def integer? : Value → Option Int
  | int n => some n
  | bool b => some (if b then 1 else 0)
  | _ => none

def stampNames : List String :=
  ["tm_year", "tm_mon", "tm_mday", "tm_hour", "tm_min", "tm_sec", "tm_wday", "tm_yday", "tm_isdst"]

/-- A broken-down time of which year, month, day, hour, minute and second are known. The day of the
week and the day of the year are the first ones, and the clock is not set for summer. -/
def brokenDown (known : List Value) : Value := stamp (known ++ [int 0, int 1, int 0])

mutual

def inner : Value → String
  | null => "None"
  | bool b => if b then "True" else "False"
  | int n => toString n
  | float x => Double.text x
  | text s => Text.quoted s
  | list items => "[" ++ ", ".intercalate (innerAll items) ++ "]"
  | record fields => "\x7b" ++ ", ".intercalate (innerFields fields) ++ "\x7d"
  | stamp parts =>
    "time.struct_time(" ++
      ", ".intercalate ((stampNames.zip (innerAll parts)).map fun p => p.1 ++ "=" ++ p.2) ++ ")"
  | tuple parts =>
    let all := innerAll parts
    "(" ++ ", ".intercalate all ++ (if all.length = 1 then ",)" else ")")
  | fault reason => "Exception(" ++ Text.quoted reason ++ ")"

def innerAll : List Value → List String
  | [] => []
  | v :: vs => v.inner :: innerAll vs

def innerFields : List (String × Value) → List String
  | [] => []
  | (k, v) :: fs => (Text.quoted k ++ ": " ++ v.inner) :: innerFields fs

end

/-- The text of a value in a message: a text stands as it is, and a fault for its reason. -/
def shown : Value → String
  | text s => s
  | fault reason => reason
  | v => v.inner

mutual

/-- Are two values equal? Numbers are compared across their sorts, a broken-down time is equal to
the tuple of its parts, and the order of a record's fields does not matter. No two faults are equal:
each time a document is read, what goes wrong is another fault. -/
def same : Value → Value → Bool
  | null, null => true
  | text a, text b => a == b
  | list a, list b => sameAll a b
  | record a, record b => a.length == b.length && sameFields a b
  | stamp a, stamp b | stamp a, tuple b | tuple a, stamp b | tuple a, tuple b => sameAll a b
  | float a, float b => a == b
  | float a, int b => Double.isWhole a b
  | int a, float b => Double.isWhole b a
  | float a, bool b => a == (if b then 1.0 else 0.0)
  | bool a, float b => (if a then 1.0 else 0.0) == b
  | int a, int b => a == b
  | int a, bool b => a == (if b then 1 else 0)
  | bool a, int b => (if a then 1 else 0) == b
  | bool a, bool b => a == b
  | _, _ => false

def sameAll : List Value → List Value → Bool
  | [], [] => true
  | a :: as, b :: bs => a.same b && sameAll as bs
  | _, _ => false

def sameFields : List (String × Value) → List (String × Value) → Bool
  | [], _ => true
  | (k, a) :: as, bs => ((bs.lookup k).map a.same).getD false && sameFields as bs

end

@[simp]
theorem same_text (a b : String) : (text a).same (text b) = (a == b) := by
  simp only [same]

theorem same_brokenDown_tuple (known parts : List Value) :
    (brokenDown known).same (tuple parts) = sameAll (known ++ [int 0, int 1, int 0]) parts := by
  simp only [brokenDown, same]

theorem same_fault (reason : String) (v : Value) : (fault reason).same v = false := by
  cases v <;> simp only [same]

/-- The text that the value is; `member` is what the caller wants of it. A record may have a field
of that name, but none that can be called. -/
def asText (v : Value) (member : String) : Except Misuse String :=
  match v with
  | text s => .ok s
  | record fields =>
    match fields.lookup member with
    | some found => .error (.notCallable found.kind)
    | none => .error (.noMember .record member)
  | v => .error (.noMember v.kind member)

def lower (v : Value) : Except Misuse String :=
  (v.asText "lower").map Text.lower

end Value

end Newswire

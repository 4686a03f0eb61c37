import Newswire.Contact
import Newswire.Double.Rounded

/-!
The store: a table of contacts in the order in which they were added, one row for an address. Rows
hold texts; a row that cannot be read back is found out when it is read. Ids are counted up and
never given twice.
-/

namespace Newswire

structure Row where
  id : Nat
  address : String
  name : String
  presence : String
  marker : Option String
  persistent : Bool
  created : String
deriving DecidableEq

/-- The table, the last id that was given, and whether it is open. -/
structure Store where
  rows : List Row
  lastId : Nat
  isOpen : Bool

def fitsCell (n : Int) : Bool :=
  -0x8000000000000000 ≤ n && n < 0x8000000000000000

def textCell (s : String) : Except Fault String :=
  match Text.loneHalves? s with
  | none => .ok s
  | some why => .error (.unwritable why)

/-- The text that a cell of the table holds for a value, none for null and for what is not a
number. Numbers become texts, doubles to fifteen digits; no cell holds a value made of others. The
position says which cell it is, for the message. -/
def Value.cell (v : Value) (position : Nat) : Except Fault (Option String) :=
  match v with
  | .null => .ok none
  | .text s => (textCell s).map some
  | .int n => if fitsCell n then .ok (some (toString n)) else .error .tooLarge
  | .bool b => .ok (some (if b then "1" else "0"))
  | .float x => .ok (if x.isNaN then none else some (Double.cellText x))
  | v => .error (.unstorable position v.kind)

/-- Whether a cell with a number counts as set; nought, null and what is not a number do not. -/
def Value.flag (v : Value) : Except Fault Bool :=
  match v with
  | .int n => if fitsCell n then .ok (n != 0) else .error .tooLarge
  | .float x => .ok (!x.isNaN && !(x == 0.0))
  | v => .ok v.truthy

def filled {α : Type} (rule : Constraint) : Option α → Except Fault α
  | some a => .ok a
  | none => .error (.constraint rule)

namespace Row

/-- The contact that a row holds. Presence, marker and time are read in this order; a row without a
time counts as new. -/
def contact (row : Row) (now : Moment) : Except Fault Contact := do
  let presence ← Presence.ofWord row.presence
  let marker ← Marker.read row.marker
  let created ← if row.created.isEmpty then pure now
    else (Moment.read row.created).mapError .moment
  pure {
    address := some row.address
    name := .text row.name
    presence := presence
    marker := marker
    persistent := row.persistent
    created := some created
    id := some row.id }

/-- The row of a contact. Whatever no cell can hold is found out before a cell that must not be
empty is. -/
def ofContact (c : Contact) (id : Nat) : Except Fault Row := do
  let address ← c.address.mapM textCell
  let name ← c.name.cell 2
  let marker ← (c.marker.map Marker.text).mapM textCell
  pure {
    id := id
    address := ← filled .missingAddress address
    name := ← filled .missingName name
    presence := c.presence.word
    marker := marker
    persistent := c.persistent
    created := ← filled .missingCreated (c.created.map Moment.iso) }

end Row

/-- The cells of a row that is written from outside, before anyone looks at them. -/
structure Cells where
  address : Option String
  name : Option String
  presence : Option String
  marker : Option String
  persistent : Value
  created : Option String

def Cells.row (c : Cells) : Except Fault Row := do
  let _ ← [c.address, c.name, c.presence, c.marker].mapM fun cell => cell.mapM textCell
  let persistent ← c.persistent.flag
  let _ ← c.created.mapM textCell
  pure {
    id := 0
    address := ← filled .missingAddress c.address
    name := ← filled .missingName c.name
    presence := ← filled .missingPresence c.presence
    marker := c.marker
    persistent := persistent
    created := ← filled .missingCreated c.created }

namespace Store

def empty : Store := ⟨[], 0, false⟩

def connect (s : Store) : Store := { s with isOpen := true }

def close (s : Store) : Store := { s with isOpen := false }

def checkOpen (s : Store) : Except Fault Unit :=
  if s.isOpen then .ok () else .error .storeClosed

def holds (s : Store) (address : Option String) : Bool :=
  s.rows.any fun row => some row.address == address

def insert (s : Store) (row : Row) : Except Fault Store := do
  s.checkOpen
  if s.holds (some row.address) then throw (.constraint .knownAddress)
  pure { s with rows := s.rows ++ [{ row with id := s.lastId + 1 }], lastId := s.lastId + 1 }

def insertCells (s : Store) (c : Cells) : Except Fault Store := do
  s.checkOpen
  s.insert (← c.row)

/-- Add a contact, which gets its id. Whatever rule it would break, it counts as known. -/
def add (s : Store) (c : Contact) : Except Fault (Contact × Store) :=
  match (do s.checkOpen; s.insert (← Row.ofContact c 0)) with
  | .ok s => .ok ({ c with id := some s.lastId }, s)
  | .error (.constraint _) => .error (.alreadySubscribed c.address)
  | .error fault => .error fault

def update (s : Store) (c : Contact) : Except Fault Store := do
  s.checkOpen
  let name ← c.name.cell 1
  let marker ← (c.marker.map Marker.text).mapM textCell
  let _ ← c.address.mapM textCell
  if s.holds c.address then
    let name ← filled .missingName name
    let write (row : Row) : Row :=
      if some row.address == c.address then
        { row with name := name, presence := c.presence.word, marker := marker }
      else row
    pure { s with rows := s.rows.map write }
  else pure s

/-- Remove the row of an address, and say whether there was one. -/
def delete (s : Store) (address : Option String) : Except Fault (Bool × Store) := do
  s.checkOpen
  let _ ← address.mapM textCell
  pure (s.holds address, { s with rows := s.rows.filter fun row => some row.address != address })

def find? (s : Store) (address : Option String) (now : Moment) : Except Fault (Option Contact) := do
  s.checkOpen
  let _ ← address.mapM textCell
  (s.rows.find? fun row => some row.address == address).mapM (·.contact now)

def all (s : Store) (now : Moment) : Except Fault (List Contact) := do
  s.checkOpen
  s.rows.mapM (·.contact now)

end Store

end Newswire

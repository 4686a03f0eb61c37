import Newswire.Marker

/-!
Contacts: the feeds that the user has subscribed to, as the user sees them.
-/

namespace Newswire

/-- Is a feed reachable? -/
inductive Presence where
  | online | offline
deriving DecidableEq

def Presence.word : Presence → String
  | .online => "online"
  | .offline => "offline"

def Presence.ofWord (word : String) : Except Fault Presence :=
  if word = Presence.online.word then .ok .online
  else if word = Presence.offline.word then .ok .offline
  else .error (.unknownPresence word)

@[simp]
theorem Presence.ofWord_word (p : Presence) : Presence.ofWord p.word = .ok p := by
  cases p <;> rfl

/-- A feed that was subscribed to. The marker is that of the newest item that was passed on; a
contact has an id once it has been stored, and only a persistent one is stored again. -/
structure Contact where
  address : Option String
  name : Value
  presence : Presence
  marker : Option Marker
  persistent : Bool
  created : Option Moment
  id : Option Nat

instance : Inhabited Contact := ⟨⟨none, .null, .online, none, true, none, none⟩⟩

namespace Contact

/-- A new contact. A name that says nothing is replaced by the address. -/
def fresh (address : Option String) (name : Value) (now : Moment) : Contact where
  address := address
  name := if name.truthy then name else (address.map Value.text).getD .null
  presence := .online
  marker := none
  persistent := true
  created := some now
  id := none

def text (c : Contact) : String :=
  c.name.shown ++ " <" ++ addressText c.address ++ ">"

end Contact

inductive Standing where
  | registered | unregistered | failed
deriving DecidableEq

def Standing.ofWord (word : String) : Except Fault Standing :=
  match word with
  | "registered" => .ok .registered
  | "unregistered" => .ok .unregistered
  | "connection_failed" => .ok .failed
  | word => .error (.unknownStanding word)

end Newswire

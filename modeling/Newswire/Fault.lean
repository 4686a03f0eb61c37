import Newswire.Moment.Iso
import Newswire.Text.Encodable
import Newswire.Value

/-!
Everything that can go wrong while news are gathered and passed on, by its cause.
-/

namespace Newswire

inductive Constraint where
  | missingAddress
  | missingName
  | missingPresence
  | missingCreated
  | knownAddress
deriving DecidableEq

def Constraint.message : Constraint → String
  | .missingAddress => "NOT NULL constraint failed: contacts.address"
  | .missingName => "NOT NULL constraint failed: contacts.display_name"
  | .missingPresence => "NOT NULL constraint failed: contacts.status"
  | .missingCreated => "NOT NULL constraint failed: contacts.created_at"
  | .knownAddress => "UNIQUE constraint failed: contacts.address"

/-- Why an operation failed. -/
inductive Fault where
  | misuse (cause : Misuse)
  | missingField (name : String)
  | moment (cause : Moment.Error)
  | unknownMarker (text : String)
  | unknownPresence (word : String)
  | unknownStanding (word : String)
  | alreadySubscribed (address : Option String)
  | notSubscribed (address : Option String)
  | storeClosed
  | constraint (rule : Constraint)
  /-- A value that no cell of the table can hold. -/
  | unstorable (position : Nat) (kind : Kind)
  /-- A text that cannot be written in bytes. -/
  | unwritable (why : Text.LoneHalves)
  /-- A whole number of more than 64 bits, which no cell of the table can hold. -/
  | tooLarge
  | gone (why : String)
  | unreadable (why : String)
  /-- A failure of a listener, of a question or of a feed's server. -/
  | raised (text : String)
  | noPeriod
deriving DecidableEq

/-- An address in a message; an absent one is named so. -/
def addressText (address : Option String) : String :=
  address.getD "None"

def Fault.message : Fault → String
  | .misuse cause => cause.message
  | .missingField name => Text.quoted name
  | .moment cause => cause.message
  | .unknownMarker text => "Unknown item key: " ++ Text.quoted text
  | .unknownPresence word => Text.quoted word ++ " is not a valid PresenceStatus"
  | .unknownStanding word => Text.quoted word ++ " is not a valid RegistrationState"
  | .alreadySubscribed address => "Already subscribed to " ++ addressText address
  | .notSubscribed address => "Not subscribed to " ++ addressText address
  | .storeClosed => "Database not connected. Call connect() first."
  | .constraint rule => rule.message
  | .unstorable position kind =>
    "Error binding parameter " ++ toString position ++ ": type '" ++ kind.name
      ++ "' is not supported"
  | .unwritable why => why.message
  | .tooLarge => "Python int too large to convert to SQLite INTEGER"
  | .gone why => why
  | .unreadable why => why
  | .raised text => text
  | .noPeriod => "Refresh period must be positive"

theorem bind_eq_ok {ε α β : Type} {x : Except ε α} {f : α → Except ε β} {b : β} :
    (x >>= f) = .ok b ↔ ∃ a, x = .ok a ∧ f a = .ok b := by
  cases x with
  | error e => exact ⟨(nomatch ·), fun ⟨_, h, _⟩ => nomatch h⟩
  | ok a => exact ⟨fun h => ⟨a, rfl, h⟩, fun ⟨_, ha, h⟩ => by cases ha; exact h⟩

theorem bind_eq_error {ε α β : Type} {x : Except ε α} {f : α → Except ε β} {e : ε} :
    (x >>= f) = .error e ↔ x = .error e ∨ ∃ a, x = .ok a ∧ f a = .error e := by
  cases x with
  | error own =>
    constructor
    · intro h
      exact .inl (congrArg _ (Except.error.inj h))
    · rintro (h | ⟨_, h, _⟩)
      · exact congrArg _ (Except.error.inj h)
      · cases h
  | ok a =>
    constructor
    · intro h
      exact .inr ⟨a, rfl, h⟩
    · rintro (h | ⟨_, h, hf⟩)
      · cases h
      · cases h
        exact hf

end Newswire

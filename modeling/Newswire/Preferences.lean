import Newswire.Double.Reading
import Newswire.Journal
import Newswire.Text.Case
import Newswire.Text.Quoted

/-!
Preferences, each from a named variable or with its usual value. A time that is no number is refused
first, then a period that is not positive, then a negative delay.
-/

namespace Newswire

structure Preferences where
  store : String
  period : Float
  delay : Float
  level : String

namespace Preferences

inductive Error where
  | notNumber (text : String)
  | periodNotPositive
  | delayNegative
  | unknownLevel (name : String)
deriving DecidableEq

def Error.message : Error → String
  | .notNumber text => "could not convert string to float: " ++ Text.quoted text
  | .periodNotPositive => "FEEDCHAT_REFRESH_PERIOD must be positive"
  | .delayNegative => "FEEDCHAT_INITIAL_DELAY must not be negative"
  | .unknownLevel name => "Unknown level: " ++ Text.quoted name

/-- The usual preferences: every five minutes, for the first time after half of that. -/
def usual : Preferences := ⟨"feedchat.db", 300.0, 150.0, "INFO"⟩

def seconds (written : Option String) (usual : Float) : Except Error Float :=
  match written with
  | none => .ok usual
  | some text =>
    match Double.read? text with
    | some x => .ok x
    | none => .error (.notNumber text)

def read (named : String → Option String) : Except Error Preferences := do
  let period ← seconds (named "FEEDCHAT_REFRESH_PERIOD") usual.period
  let delay ← seconds (named "FEEDCHAT_INITIAL_DELAY") usual.delay
  if period ≤ 0.0 then throw .periodNotPositive
  if delay < 0.0 then throw .delayNegative
  pure {
    store := (named "FEEDCHAT_DB_PATH").getD usual.store
    period := period
    delay := delay
    level := Text.upper ((named "FEEDCHAT_LOG_LEVEL").getD usual.level) }

def threshold (p : Preferences) : Except Error Nat :=
  match Journal.thresholds.lookup p.level with
  | some rank => .ok rank
  | none => .error (.unknownLevel p.level)

end Preferences

end Newswire

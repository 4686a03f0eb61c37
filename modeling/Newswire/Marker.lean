import Newswire.Fault

/-!
Markers: what is remembered of the newest item that was passed on. A marker is the date of that
item, or its token where a feed has no dates. Dates are ordered; tokens are not, so any other token
counts as newer.
-/

namespace Newswire

/-- The newest item that was passed on, by its date or by its token. -/
inductive Marker where
  | date (moment : Moment)
  | token (token : Value)

namespace Marker

/-- Do two tokens name the same item? They do when they agree but for the case of their letters. No
item has the token null. -/
def tokenMatches (own token : Value) : Except Fault Bool :=
  match token with
  | .null => .ok false
  | token => do
    let a ← (own.lower).mapError .misuse
    let b ← (token.lower).mapError .misuse
    pure (a == b)

/-- Is the marker newer than an earlier one, or than none? Markers of different kinds cannot be
set against each other; the one at hand counts as newer. -/
def newerThan : Marker → Option Marker → Except Fault Bool
  | .date a, some (.date b) => (a.later? b).mapError .moment
  | .token a, some (.token b) => (tokenMatches a b).map (!·)
  | _, _ => .ok true

def same : Marker → Marker → Bool
  | .date a, .date b => a.same b
  | .token a, .token b => a.same b
  | _, _ => false

/-! ### The stored form -/

def text : Marker → String
  | .date a => "date:" ++ a.iso
  | .token t => "token:" ++ t.shown

/-- Read the stored form of a marker; no text, or an empty one, stands for no marker. -/
def read (stored : Option String) : Except Fault (Option Marker) :=
  match stored.map String.toList with
  | none | some [] => .ok none
  | some cs =>
    let kind := cs.takeWhile (· != ':')
    let rest := String.ofList ((cs.dropWhile (· != ':')).drop 1)
    if kind = "date".toList then
      ((Moment.read rest).mapError .moment).map (some ∘ .date)
    else if kind = "token".toList then .ok (some (.token (.text rest)))
    else .error (.unknownMarker (String.ofList cs))

end Marker

end Newswire

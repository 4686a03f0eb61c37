import Newswire.Double.Shortest

/-!
Spans of time in seconds. A whole number of seconds and a double are written differently.
-/

namespace Newswire

inductive Span where
  | whole (n : Int)
  | real (x : Float)

namespace Span

def text : Span → String
  | .whole n => toString n
  | .real x => Double.text x

def toFloat : Span → Float
  | .whole n => Float.ofInt n
  | .real x => x

def isNone : Span → Bool
  | .whole n => n ≤ 0
  | .real x => x ≤ 0.0

def usualPeriod : Span := .whole 300

def usualDelay : Span := .whole 150

end Span

end Newswire

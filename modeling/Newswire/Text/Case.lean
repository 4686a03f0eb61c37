import Newswire.Text.CaseTable

/-!
Capital and small letters of a text. Each letter is mapped on its own, save the capital sigma, whose
small form depends on whether it ends a word.
-/

namespace Newswire.Text

/-- The letters that stand for `n` under a table of runs and a table of longer forms; a code point
that is in neither stands for itself. -/
def mapCase (runs : List CaseRun) (many : List (Nat × List Nat)) (n : Nat) : List Nat :=
  match many.lookup n with
  | some ns => ns
  | none => [(runs.findSome? (·.map? n)).getD n]

def lowerChar (c : Char) : List Char :=
  if c.toNat < 0x80 then [c.toLower]
  else (mapCase lowerRuns lowerMany c.toNat).map Char.ofNat

def upperChar (c : Char) : List Char :=
  if c.toNat < 0x80 then [c.toUpper]
  else (mapCase upperRuns upperMany c.toNat).map Char.ofNat

def meetsCased (cs : List Char) : Bool :=
  match cs.dropWhile caseIgnorable.contains with
  | [] => false
  | c :: _ => cased.contains c

/-- The small sigma between the letters `before` (nearest first) and `after`: the final form stands
at the end of a word. -/
def lowerSigma (before after : List Char) : Char :=
  if meetsCased before && !meetsCased after then 'ς' else 'σ'

/-- The small form of `rest`, where `before` holds the letters already passed, nearest first. -/
def lowerFrom (before : List Char) : List Char → List Char
  | [] => []
  | c :: rest =>
    (if c = 'Σ' then [lowerSigma before rest] else lowerChar c) ++ lowerFrom (c :: before) rest

def lower (s : String) : String :=
  String.ofList (lowerFrom [] s.toList)

def upper (s : String) : String :=
  String.ofList (s.toList.flatMap upperChar)

end Newswire.Text

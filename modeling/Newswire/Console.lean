import Newswire.Newsroom.Basic
import Newswire.Text.Blank
import Newswire.Text.Case
import Newswire.Text.Split

/-!
The console: how events and questions look on it, and how answers are read from it.
-/

namespace Newswire.Console

def eventText : Event → String
  | .received m c => "\n[" ++ c.name.shown ++ "]\n" ++ m.content ++ "\n\n"
  | .delivered m c => "-> " ++ c.name.shown ++ ": " ++ m.content ++ "\n"
  | .failed _ c reason => "-> " ++ c.name.shown ++ ": not delivered (" ++ reason ++ ")\n"
  | _ => ""

def prompt (q : Question) : String :=
  "\n" ++ q.title ++ "\n" ++ q.text ++ " [y/N] "

/-- The lines of the input. What follows the last line end is a line if there is anything. -/
def lines (input : String) : List String :=
  let parts := Text.splitAt '\n' input.toList
  (if parts.getLast? = some [] then parts.dropLast else parts).map String.ofList

def saysYes (line : String) : Bool :=
  Text.lower (Text.strip line) ∈ ["y", "yes"]

/-- The answer to question `n`, counted from nought; at the end of the input it is no. -/
def answer (input : List String) (n : Nat) : Bool :=
  (input[n]?.map saysYes).getD false

end Newswire.Console

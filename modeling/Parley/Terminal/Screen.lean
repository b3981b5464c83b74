import Parley.Log
import Parley.Transcript.View

/-!
# The transcript on a terminal

Every entry is printed as a line when it is added. A terminal shows its end anyway, so that scrolling does nothing.
-/

namespace Parley.Terminal

structure Screen where
  /-- What the user typed is printed too; it is there already when it was typed on this terminal. -/
  echo : Bool
  /-- Why nothing can be printed, if that is so. -/
  broken : Option String := none
  /-- Why nothing can be told of failures, if that is so. -/
  mute : Option String := none
  deriving DecidableEq, Repr

namespace Screen

/-- What a terminal says about its sizes. -/
def metrics : Transcript.Metrics := {}

def line? (s : Screen) (e : Transcript.Entry) : Option String :=
  if e.role = .user ∧ ¬s.echo then none else some (e.body.content ++ "\n")

/-- What is told about an entry that could not be printed. -/
def printFailure (e : Transcript.Entry) (details : String) : Log.Event :=
  ⟨.warn, "failed to print transcript entry", [("entry", toString e.id), ("error", details)]⟩

/-- Prints an entry: the text that comes out, and what is told. -/
def render (s : Screen) (e : Transcript.Entry) : String × List Log.Event :=
  match s.line? e, s.broken with
  | none, _ => ("", [])
  | some text, none => (text, [])
  | some _, some details => ("", [printFailure e details])

end Screen

end Parley.Terminal

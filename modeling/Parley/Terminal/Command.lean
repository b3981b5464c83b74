import Parley.Text.Blank

/-!
# What a typed line asks for
-/

namespace Parley.Terminal

inductive Command
  | send (text : String)
  | showSession
  | resetSession
  | quit
  deriving DecidableEq, Repr

/-- Blanks around a command count for nothing; every line that is no command is sent. -/
def Command.parse (line : String) : Command :=
  let word := Text.trim line
  if word = "/quit" ∨ word = "/exit" then quit
  else if word = "/session" then showSession
  else if word = "/reset" then resetSession
  else send line

end Parley.Terminal

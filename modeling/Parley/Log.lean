/-!
# Log events

An event has a level, a message and named fields; the module in whose work an event arises builds it.
-/

namespace Parley.Log

inductive Level
  | trace | debug | info | warn | error
  deriving DecidableEq, Repr

def Level.name : Level → String
  | trace => "trace"
  | debug => "debug"
  | info => "info"
  | warn => "warn"
  | error => "error"

/-- What is told to whoever watches the program, field values as text. -/
structure Event where
  level : Level
  message : String
  fields : List (String × String)
  deriving DecidableEq, Repr

end Parley.Log

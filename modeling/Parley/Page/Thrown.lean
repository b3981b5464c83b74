import Parley.Json.Printer

/-!
# What the calls of a page throw

A page may refuse any call with a value of its own. `Thrown.details` is all that a message says of the value.
-/

namespace Parley.Page

inductive Thrown
  | text (s : String)
  | failure (description : String)
  | value (v : Json.Value)
  deriving Repr

/-- A text speaks for itself; of anything else the form is told too. -/
def Thrown.details : Thrown → String
  | text s => s
  | failure description => s!"JsValue({description})"
  | value v => s!"JsValue({v.compact})"

inductive Call
  | querySelector | createElement | appendChild
  | addEventListener | removeEventListener | alert
  | sessionStorage | getItem | setItem | removeItem
  | newHeaders | setHeader | newRequest
  deriving DecidableEq, Repr

/-- What calls throw: now, at `0`, and after so many more attempts to create or append a node. -/
abbrev Faults := Nat → Call → Option Thrown

namespace Faults

def none : Faults := fun _ _ => Option.none

def later (fs : Faults) : Faults := fun n => fs (n + 1)

/-- From now on a call throws `v`, or nothing. -/
def put (fs : Faults) (call : Call) (v : Option Thrown) : Faults :=
  fun n c => if c = call then v else fs n c

end Faults

end Parley.Page

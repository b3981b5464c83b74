import Parley.Decimal.Binary64
import Parley.Transcript.Entry

/-!
# The surface a transcript is shown on

A `View` is what the surface says about its size and scroll position. Either its height is given, or every entry
rendered on it is a row of a given height.
-/

namespace Parley.Transcript

/-- A scroll position and the sizes it depends on. -/
structure Metrics where
  scrollTop : Binary64 := .zero
  scrollHeight : Binary64 := .zero
  clientHeight : Binary64 := .zero
  deriving DecidableEq, Repr

/-- The scroll position at which the end is in sight. -/
def Metrics.maxOffset (m : Metrics) : Binary64 :=
  m.scrollHeight.sub m.clientHeight

/-- Where to scroll to show the end: a surface that is high enough stays at its top. -/
def Metrics.bottom (m : Metrics) : Binary64 :=
  if m.maxOffset.isPositive then m.maxOffset else .zero

inductive ViewCall
  | render (entry : Entry)
  | scrollTo (offset : Binary64)
  deriving DecidableEq, Repr

structure View where
  given : Metrics := {}
  rowHeight : Option Binary64 := none
  rows : Nat := 0
  deriving DecidableEq, Repr

namespace View

def metrics (v : View) : Metrics :=
  match v.rowHeight with
  | none => v.given
  | some h => { v.given with scrollHeight := (Binary64.ofNat v.rows).mul h }

def apply (v : View) : ViewCall → View
  | .render _ => { v with rows := v.rows + 1 }
  | .scrollTo offset => { v with given := { v.given with scrollTop := offset } }

end View

end Parley.Transcript

import Parley.Transcript.View

/-!
# Scrolling to the end on request

Requests coalesce: however many were made, the next `Scroll.apply` scrolls once, to the end as the surface reports it
then.
-/

namespace Parley.Transcript

structure Scroll where
  pending : Bool := false
  lastOffset : Option Binary64 := none
  deriving DecidableEq, Repr

namespace Scroll

def request (s : Scroll) : Scroll := { s with pending := true }

def apply (s : Scroll) (m : Metrics) : Option Binary64 × Scroll :=
  if s.pending then (some m.bottom, ⟨false, some m.bottom⟩) else (none, s)

end Scroll

end Parley.Transcript

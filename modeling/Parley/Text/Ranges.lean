import Parley.Text.Hex
import Parley.Text.Pieces

/-!
# Sets of characters as ranges

Tables of character properties are kept as text: ranges `lo-hi` and single code points in hexadecimal digits, with
blanks between them, in ascending order.
-/

namespace Parley.Text

/-- Code points from `low` to `high`. -/
structure Range where
  low : Nat
  high : Nat
  deriving DecidableEq, Repr

namespace Range

def contains (r : Range) (n : Nat) : Bool := r.low ≤ n && n ≤ r.high

/-- The number of a run of hexadecimal digits; a run that is none counts as zero. -/
def number (cs : List Char) : Nat := (Hex.value? cs).getD 0

def ofEntry (cs : List Char) : Range :=
  match pieces '-' cs with
  | [low, high] => ⟨number low, number high⟩
  | _ => ⟨number cs, number cs⟩

def ofTable (lines : List String) : List Range :=
  lines.flatMap fun line => (pieces ' ' line.toList).map ofEntry

/-- Some range of an ascending table holds the code point. -/
def anyContains (n : Nat) : List Range → Bool
  | [] => false
  | r :: rs => r.contains n || (r.high < n && anyContains n rs)

end Range

end Parley.Text

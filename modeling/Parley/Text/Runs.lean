import Parley.Text.Ranges

/-!
# Maps of characters as runs

Tables that map characters to others are kept as text. In a table of runs an entry is `low-high-step-target`, in a
table of expansions the source and then the characters that it stands for, all in hexadecimal digits.
-/

namespace Parley.Text

/-- Every `step`-th code point from `low` to `high` goes to a single one, at the same distance from `target`. -/
structure Run where
  low : Nat
  high : Nat
  step : Nat
  target : Nat
  deriving Repr

namespace Run

def ofTable (lines : List String) : List Run :=
  lines.flatMap fun line => (pieces ' ' line.toList).filterMap fun entry =>
    match (pieces '-' entry).map Range.number with
    | [low, high, step, target] => some ⟨low, high, step, target⟩
    | _ => none

def contains (r : Run) (n : Nat) : Bool := r.low ≤ n && n ≤ r.high && (n - r.low) % r.step == 0

/-- Where the first run that holds the code point takes it. -/
def target? (n : Nat) (runs : List Run) : Option Char :=
  (runs.find? (·.contains n)).map fun r => Char.ofNat (r.target + (n - r.low))

end Run

/-- The entries of a table of characters that stand for several. -/
def expansionsOfTable (lines : List String) : List (Nat × List Char) :=
  lines.flatMap fun line => (pieces ' ' line.toList).filterMap fun entry =>
    match (pieces '-' entry).map Range.number with
    | source :: targets => some (source, targets.map Char.ofNat)
    | [] => none

end Parley.Text

import Parley.Decimal.Binary64

/-!
# Shortest decimal digits

`Decimal.shortest m q` gives the fewest decimal digits that single out the double `m * 2 ^ q` among its neighbours:
for one digit, two digits and so on, it looks at the two points of that decimal grid around the value, and takes the
first grid that has one inside the interval of reals that round to the double. Of two such points the nearer wins.

All arithmetic is exact, on fractions of natural numbers.
-/

namespace Parley.Decimal

/-- The digits `d₁ … dₙ` (no zero at either end, or the single digit 0) and the place of the point: the value is
`0.d₁…dₙ * 10 ^ point`. -/
structure Digits where
  digits : List Char
  point : Int
  deriving DecidableEq, Repr

/-- A fraction of natural numbers. -/
structure Ratio where
  num : Nat
  den : Nat

namespace Ratio

/-- `m * 2 ^ q`. -/
def ofBinary (m : Nat) (q : Int) : Ratio :=
  if q < 0 then ⟨m, Nat.pow 2 q.natAbs⟩ else ⟨m * Nat.pow 2 q.natAbs, 1⟩

/-- `d * 10 ^ k`. -/
def ofDecimal (d : Nat) (k : Int) : Ratio :=
  if k < 0 then ⟨d, Nat.pow 10 k.natAbs⟩ else ⟨d * Nat.pow 10 k.natAbs, 1⟩

def le (a b : Ratio) : Bool := a.num * b.den ≤ b.num * a.den

def lt (a b : Ratio) : Bool := a.num * b.den < b.num * a.den

/-- The whole number of steps of size `10 ^ k` in `a`. -/
def stepsOf (a : Ratio) (k : Int) : Nat :=
  if k < 0 then a.num * Nat.pow 10 k.natAbs / a.den else a.num / (a.den * Nat.pow 10 k.natAbs)

end Ratio

/-- The reals that round to the double with significand `m` and exponent `q`, in quarter units of its last place;
the ends belong to it when `m` is even. -/
structure Interval where
  low : Ratio
  high : Ratio
  closed : Bool

/-- The interval of `m * 2 ^ q`. Just above a power of two the gap below is half as wide. -/
def Interval.around (m : Nat) (q : Int) : Interval where
  low := .ofBinary (if m = 0x10000000000000 ∧ -1074 < q then 4 * m - 1 else 4 * m - 2) (q - 2)
  high := .ofBinary (4 * m + 2) (q - 2)
  closed := m % 2 == 0

def Interval.contains (i : Interval) (a : Ratio) : Bool :=
  if i.closed then i.low.le a && a.le i.high else i.low.lt a && a.lt i.high

/-- The number of digits before the point of a positive value (zero or less when it is below one): the `p` with
`10 ^ (p - 1) ≤ v < 10 ^ p`, looked for around an estimate from the binary length. -/
def magnitude (m : Nat) (q : Int) (v : Ratio) : Int :=
  let estimate : Int := (Int.ofNat m.log2 + q) * 30103 / 100000
  let candidates := [estimate + 3, estimate + 2, estimate + 1, estimate, estimate - 1]
  match candidates.find? fun p => (Ratio.ofDecimal 1 (p - 1)).le v with
  | some p => p
  | none => estimate - 2

/-- The point of the grid of step `10 ^ k` that names the value, if the interval holds one. -/
def onGrid (v : Ratio) (i : Interval) (k : Int) : Option Nat :=
  let d := v.stepsOf k
  let below := i.contains (.ofDecimal d k)
  let above := i.contains (.ofDecimal (d + 1) k)
  if below && above then
    -- twice the value against the sum of the two points
    let twice : Ratio := ⟨2 * v.num, v.den⟩
    let sum := Ratio.ofDecimal (2 * d + 1) k
    if twice.lt sum then some d else if sum.lt twice then some (d + 1) else some (if d % 2 = 0 then d else d + 1)
  else if below then some d
  else if above then some (d + 1)
  else none

/-- The digits of `d * 10 ^ k` without the zeros at the end. -/
def Digits.ofNat (d : Nat) (k : Int) : Digits :=
  let all := Nat.toDigits 10 d
  ⟨(all.reverse.dropWhile (· == '0')).reverse, Int.ofNat all.length + k⟩

/-- The shortest digits of the double `m * 2 ^ q`, for a positive `m`. -/
def shortest (m : Nat) (q : Int) : Digits :=
  let v := Ratio.ofBinary m q
  let i := Interval.around m q
  let p := magnitude m q v
  let grids : List Int := (List.range 17).map fun n => p - 1 - Int.ofNat n
  match grids.findSome? fun k => (onGrid v i k).map (Digits.ofNat · k) with
  | some digits => digits
  | none => Digits.ofNat (v.stepsOf (p - 17)) (p - 17)

end Parley.Decimal

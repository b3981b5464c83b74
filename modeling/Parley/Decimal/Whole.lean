import Parley.Decimal.Binary64

/-!
# Doubles and whole numbers

* `Binary64.ofInt` : the double nearest to a whole number;
* `Binary64.whole?` : the whole number that a double is;
* `Binary64.toInt32` : the nearest whole number of 32 bits.
-/

namespace Parley.Binary64

def ofInt (n : Int) : Binary64 := ofFloat (Float.ofInt n)

def withSign (negative : Bool) (n : Nat) : Int := if negative then -Int.ofNat n else n

/-- The whole number that the double is, if it is one. -/
def whole? (x : Binary64) : Option Int :=
  match x.parts with
  | .nan | .infinite _ => none
  | .finite negative m q =>
    if 0 ≤ q then some (withSign negative (m * Nat.pow 2 q.toNat))
    else if m % Nat.pow 2 (-q).toNat = 0 then some (withSign negative (m / Nat.pow 2 (-q).toNat))
    else none

/-- The whole number nearest to `m * 2 ^ q`; a half goes up. -/
def roundUpHalf (m : Nat) (q : Int) : Nat :=
  if 0 ≤ q then m * Nat.pow 2 q.toNat
  else (m + Nat.pow 2 ((-q).toNat - 1)) / Nat.pow 2 (-q).toNat

/-- The nearest whole number, a half going away from zero; beyond 32 bits the last one that fits, and zero for a NaN. -/
def toInt32 (x : Binary64) : Int32 :=
  match x.parts with
  | .nan => 0
  | .infinite negative => if negative then Int32.minValue else Int32.maxValue
  | .finite negative m q => Int32.ofIntClamp (withSign negative (roundUpHalf m q))

end Parley.Binary64

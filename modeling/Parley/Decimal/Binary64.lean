/-!
# Binary floating point numbers by their bits

`Binary64` is a double given by its 64 bits, so that equality is equality of bits. `Binary64.parts` splits a number
into sign, significand and power of two; a finite number is `± m * 2 ^ q`.
-/

namespace Parley

structure Binary64 where
  bits : UInt64
  deriving DecidableEq, Repr

namespace Binary64

def ofFloat (f : Float) : Binary64 := ⟨f.toBits⟩

def toFloat (b : Binary64) : Float := Float.ofBits b.bits

def zero : Binary64 := ⟨0⟩

def ofNat (n : Nat) : Binary64 := ofFloat (Float.ofNat n)

def sub (a b : Binary64) : Binary64 := ofFloat (a.toFloat - b.toFloat)

def mul (a b : Binary64) : Binary64 := ofFloat (a.toFloat * b.toFloat)

/-- Above zero; not so for a NaN. -/
def isPositive (a : Binary64) : Bool := 0.0 < a.toFloat

/-- What the bits stand for. -/
inductive Parts
  | nan
  | infinite (negative : Bool)
  /-- `± significand * 2 ^ exponent`. -/
  | finite (negative : Bool) (significand : Nat) (exponent : Int)
  deriving DecidableEq, Repr

/-- Sign, significand with its hidden bit, and exponent. -/
def parts (b : Binary64) : Parts :=
  let n := b.bits.toNat
  let negative := n / 0x8000000000000000 == 1
  let biased := n / 0x10000000000000 % 0x800
  let fraction := n % 0x10000000000000
  if biased == 2047 then
    if fraction == 0 then .infinite negative else .nan
  else if biased == 0 then .finite negative fraction (-1074)
  else .finite negative (0x10000000000000 + fraction) (Int.ofNat biased - 1075)

end Binary64

end Parley

/-!
# Hexadecimal digits

`lowerDigit` and `upperDigit` write a number below sixteen, `digit?` reads one digit of either case.
-/

namespace Parley.Text.Hex

def lowerDigit (n : Nat) : Char :=
  let d := n % 16
  if d < 10 then Char.ofNat (48 + d) else Char.ofNat (87 + d)

def upperDigit (n : Nat) : Char :=
  let d := n % 16
  if d < 10 then Char.ofNat (48 + d) else Char.ofNat (55 + d)

def digit? (c : Char) : Option Nat :=
  let n := c.toNat
  if 48 ≤ n ∧ n ≤ 57 then some (n - 48)
  else if 97 ≤ n ∧ n ≤ 102 then some (n - 87)
  else if 65 ≤ n ∧ n ≤ 70 then some (n - 55)
  else none

/-- The digits `0`–`9` and `a`–`f`. -/
def isLowerDigit (c : Char) : Bool :=
  let n := c.toNat
  (48 ≤ n && n ≤ 57) || (97 ≤ n && n ≤ 102)

def ofByte (b : UInt8) : List Char :=
  [lowerDigit (b.toNat / 16), lowerDigit b.toNat]

/-- The value of a run of digits, or nothing when a character is no digit. -/
def value? (cs : List Char) : Option Nat :=
  cs.foldlM (fun acc c => (digit? c).map (acc * 16 + ·)) 0

/-- The lowercase digits of a number without leading zeros. -/
def ofNat (n : Nat) : List Char :=
  Nat.toDigits 16 n

theorem isLowerDigit_lowerDigit (n : Nat) : isLowerDigit (lowerDigit n) = true := by
  have h : ∀ d < 16, isLowerDigit (if d < 10 then Char.ofNat (48 + d) else Char.ofNat (87 + d)) = true := by
    decide
  exact h (n % 16) (Nat.mod_lt n (by decide))

end Parley.Text.Hex

import Parley.Decimal.Binary64

/-!
# Decimal numerals as doubles

`Binary64.ofNumeral?` reads a sign, digits with a point among them or an exponent after them, or the name of an
infinity or of a value that is no number. The result is the nearest double.
-/

namespace Parley.Decimal

def isDigit (c : Char) : Bool := '0' ≤ c && c ≤ '9'

def digitsValue (cs : List Char) : Nat :=
  cs.foldl (fun acc c => acc * 10 + (c.toNat - 48)) 0

/-- A sign in front of a text, and the text after it. -/
def sign : List Char → Bool × List Char
  | '-' :: cs => (true, cs)
  | '+' :: cs => (false, cs)
  | cs => (false, cs)

/-- A numeral without a sign: digits before and after the point, and the exponent. -/
structure Numeral where
  whole : List Char
  fraction : List Char
  exponent : Int
  deriving DecidableEq, Repr

namespace Numeral

/-- An exponent after its letter, which has to be the end of the text. -/
def exponent? (cs : List Char) : Option Int :=
  let (negative, cs) := sign cs
  if cs.isEmpty || !cs.all isDigit then none
  else some (if negative then -Int.ofNat (digitsValue cs) else Int.ofNat (digitsValue cs))

/-- The numeral that is the whole text; there is a digit before or after the point. -/
def parse? (cs : List Char) : Option Numeral :=
  let whole := cs.takeWhile isDigit
  let rest := cs.dropWhile isDigit
  let (fraction, rest) :=
    match rest with
    | '.' :: rest => (rest.takeWhile isDigit, rest.dropWhile isDigit)
    | rest => ([], rest)
  if whole.isEmpty && fraction.isEmpty then none
  else
    match rest with
    | [] => some ⟨whole, fraction, 0⟩
    | c :: rest =>
      if c = 'e' ∨ c = 'E' then (exponent? rest).map fun e => ⟨whole, fraction, e⟩ else none

def significand (n : Numeral) : Nat := digitsValue (n.whole ++ n.fraction)

/-- The power of ten that the significand is multiplied with. -/
def scale (n : Numeral) : Int := n.exponent - Int.ofNat n.fraction.length

/-- The nearest double. What is far outside the range is not computed. -/
def toFloat (n : Numeral) : Float :=
  let m := n.significand
  let magnitude := Int.ofNat (Nat.toDigits 10 m).length + n.scale
  if m = 0 ∨ magnitude < -400 then 0.0
  else if 400 < magnitude then 1.0 / 0.0
  else if n.scale < 0 then Float.ofScientific m true n.scale.natAbs
  else Float.ofScientific m false n.scale.natAbs

end Numeral

end Parley.Decimal

namespace Parley.Binary64
open Decimal

/-- The letter in lowercase, for the letters of the English alphabet. -/
def lowerNames (cs : List Char) : List Char := cs.map Char.toLower

def ofNumeral? (cs : List Char) : Option Binary64 :=
  let (negative, cs) := sign cs
  let magnitude :=
    if lowerNames cs = "inf".toList ∨ lowerNames cs = "infinity".toList then some (1.0 / 0.0)
    else if lowerNames cs = "nan".toList then some (0.0 / 0.0)
    else (Numeral.parse? cs).map Numeral.toFloat
  magnitude.map fun x => ofFloat (if negative then -x else x)

end Parley.Binary64

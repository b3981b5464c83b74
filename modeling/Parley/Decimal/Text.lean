import Parley.Decimal.Shortest

/-!
# Decimal text of doubles

* `Binary64.plainText` : always positional, with no point after a whole number;
* `Binary64.jsonText` : positional from `1e-5` up to `1e16`, with at least one digit after the point; outside that
  range one digit before the point and an exponent with its sign.
-/

namespace Parley.Decimal

def zeros (n : Int) : List Char := List.replicate n.toNat '0'

namespace Digits

/-- The digits with the point at its place; `whole` follows a number without a fraction. -/
def positional (ds : Digits) (whole : List Char) : List Char :=
  let n := Int.ofNat ds.digits.length
  if ds.point ≤ 0 then '0' :: '.' :: (zeros (-ds.point) ++ ds.digits)
  else if n ≤ ds.point then ds.digits ++ zeros (ds.point - n) ++ whole
  else ds.digits.take ds.point.toNat ++ '.' :: ds.digits.drop ds.point.toNat

/-- One digit, the point, the other digits, and the power of ten with its sign. -/
def scientific (ds : Digits) : List Char :=
  let e := ds.point - 1
  let head :=
    match ds.digits with
    | [] => ['0']
    | [d] => [d]
    | d :: rest => d :: '.' :: rest
  head ++ 'e' :: (if e < 0 then '-' else '+') :: (toString e.natAbs).toList

end Digits

end Parley.Decimal

namespace Parley.Binary64
open Decimal

/-- The text with a minus sign in front where it belongs. -/
def signed (negative : Bool) (cs : List Char) : String :=
  String.ofList (if negative then '-' :: cs else cs)

/-- Shortest digits, always positional. -/
def plainText (b : Binary64) : String :=
  match b.parts with
  | .nan => "NaN"
  | .infinite negative => signed negative "inf".toList
  | .finite negative 0 _ => signed negative ['0']
  | .finite negative m q => signed negative ((shortest m q).positional [])

def jsonText (b : Binary64) : String :=
  match b.parts with
  | .nan | .infinite _ => "null"
  | .finite negative 0 _ => signed negative "0.0".toList
  | .finite negative m q =>
    let ds := shortest m q
    signed negative (if -5 < ds.point ∧ ds.point ≤ 16 then ds.positional ".0".toList else ds.scientific)

end Parley.Binary64

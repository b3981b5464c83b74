import Parley.Json.Fault
import Parley.Json.Value

/-!
# Numbers in JSON

`encode` writes a number. `decode` reads the digits of one, the sign being read already: a whole number stays whole
while it fits 64 bits, everything else becomes a double. The double is the significand, as far as it fits 64 bits,
times or divided by one power of ten; that is not always the nearest double.
-/

namespace Parley.Json.Numeral

def encode : Number → List Char
  | .integer n => (toString n).toList
  | .float x => x.jsonText.toList

def digit? (c : Char) : Option Nat :=
  if '0' ≤ c ∧ c ≤ '9' then some (c.toNat - 48) else none

def isDigit (c : Char) : Bool := (digit? c).isSome

def startsWithDigit : List Char → Bool
  | [] => false
  | c :: _ => isDigit c

/-- The largest significand. -/
def limit : Nat := 0xFFFFFFFFFFFFFFFF

/-- Takes digits into a significand until the next one would not fit; also counts them. -/
def absorb (significand : Nat) (count : Nat) : List Char → Nat × Nat × List Char
  | [] => (significand, count, [])
  | c :: cs =>
    match digit? c with
    | none => (significand, count, c :: cs)
    | some d =>
      if significand * 10 + d ≤ limit then absorb (significand * 10 + d) (count + 1) cs
      else (significand, count, c :: cs)

/-- `10 ^ n` for `n` up to 308. -/
def power (n : Nat) : Float := Float.ofScientific 1 false n

/-- Divides by `10 ^ 308` until the rest of the exponent is in the range of powers or nothing is left. -/
def shrink : Nat → Float → Nat → Float
  | 0, x, _ => x
  | steps + 1, x, e =>
    if e ≤ 308 then x / power e
    else if x == 0 then x
    else shrink steps (x / power 308) (e - 308)

/-- `significand * 10 ^ exponent`, unless that is too large. -/
def scale (significand : Nat) (exponent : Int) : Option Float :=
  let x := significand.toUInt64.toFloat
  if exponent < 0 then some (shrink 4 x exponent.natAbs)
  else if exponent.natAbs ≤ 308 then
    let y := x * power exponent.natAbs
    if y.isInf then none else some y
  else if x == 0 then some x
  else none

/-- The double with this sign, at a place of the text where it ends. -/
def finish (negative : Bool) (significand : Nat) (exponent : Int) (rest : List Char) :
    Except Fault (Number × List Char) :=
  match scale significand exponent with
  | none => .error (.before .numberTooLarge rest)
  | some x => .ok (.float (.ofFloat (if negative then -x else x)), rest)

/-- The digits of an exponent: their value, or nothing when it leaves 31 bits, and the text after the digit where that
was seen. -/
def exponentDigits (e : Nat) : List Char → Option Nat × List Char
  | [] => (some e, [])
  | c :: cs =>
    match digit? c with
    | none => (some e, c :: cs)
    | some d => if e * 10 + d ≤ 2147483647 then exponentDigits (e * 10 + d) cs else (none, cs)

def exponent (negative : Bool) (significand : Nat) (start : Int) (cs : List Char) :
    Except Fault (Number × List Char) :=
  let (down, cs) :=
    match cs with
    | '+' :: rest => (false, rest)
    | '-' :: rest => (true, rest)
    | _ => (false, cs)
  match cs with
  | [] => .error (.atEnd .endInValue)
  | c :: rest =>
    match digit? c with
    | none => .error (.ofNext .badNumber (c :: rest))
    | some d =>
      match exponentDigits d rest with
      | (some e, rest) => finish negative significand (if down then start - e else start + e) rest
      | (none, rest) =>
        if significand ≠ 0 ∧ ¬down then .error (.before .numberTooLarge rest)
        else .ok (.float (.ofFloat (if negative then -0.0 else 0.0)), rest.dropWhile isDigit)

def fraction (negative : Bool) (significand : Nat) (dropped : Nat) (cs : List Char) :
    Except Fault (Number × List Char) :=
  let (significand, count, rest) := absorb significand 0 cs
  if count = 0 ∧ ¬startsWithDigit rest then
    match rest with
    | [] => .error (.atEnd .endInValue)
    | _ => .error (.ofNext .badNumber rest)
  else
    let start := Int.ofNat dropped - Int.ofNat count
    match rest.dropWhile isDigit with
    | 'e' :: rest | 'E' :: rest => exponent negative significand start rest
    | rest => finish negative significand start rest

/-- Reads on after the digits before the point, of which `dropped` did not fit the significand. -/
def afterWhole (negative : Bool) (significand : Nat) (dropped : Nat) (cs : List Char) :
    Except Fault (Number × List Char) :=
  match cs with
  | '.' :: rest => fraction negative significand dropped rest
  | 'e' :: rest | 'E' :: rest => exponent negative significand dropped rest
  | rest =>
    if dropped ≠ 0 then finish negative significand dropped rest
    else if negative then
      if significand = 0 ∨ 0x8000000000000000 < significand then finish true significand 0 rest
      else .ok (.integer (-Int.ofNat significand), rest)
    else .ok (.integer significand, rest)

def decode (negative : Bool) : List Char → Except Fault (Number × List Char)
  | [] => .error (.atEnd .endInValue)
  | c :: cs =>
    match digit? c with
    | none => .error (.ofNext .badNumber (c :: cs))
    | some 0 =>
      if startsWithDigit cs then .error (.ofNext .badNumber cs) else afterWhole negative 0 0 cs
    | some d =>
      let (significand, _, rest) := absorb d 0 cs
      afterWhole negative significand (rest.takeWhile isDigit).length (rest.dropWhile isDigit)

end Parley.Json.Numeral

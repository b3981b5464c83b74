/-!
# Labels beyond ASCII in ASCII letters

`Punycode.encode` writes the ASCII characters of a label, a hyphen, and then where the other characters stand: in
ascending order, each as the distance from the one before, a number in base 36 whose digits have thresholds that adapt
to the distances seen.
-/

namespace Parley.Url.Punycode

def digit (n : Nat) : Char :=
  if n < 26 then Char.ofNat (97 + n) else Char.ofNat (22 + n)

def digit? (c : Char) : Option Nat :=
  let n := c.toNat
  if 97 ≤ n ∧ n ≤ 122 then some (n - 97)
  else if 65 ≤ n ∧ n ≤ 90 then some (n - 65)
  else if 48 ≤ n ∧ n ≤ 57 then some (n - 22)
  else none

/-- From which value on the digit at place `k` is followed by another one. -/
def threshold (k bias : Nat) : Nat :=
  if k ≤ bias then 1 else if bias + 26 ≤ k then 26 else k - bias

/-- Divides a distance by 35 while it is large, and counts the steps in 36s. -/
def shrink : Nat → Nat → Nat → Nat × Nat
  | 0, delta, k => (delta, k)
  | fuel + 1, delta, k => if 455 < delta then shrink fuel (delta / 35) (k + 36) else (delta, k)

/-- The bias after a distance, with so many characters in place. -/
def adapt (delta count : Nat) (first : Bool) : Nat :=
  let d := if first then delta / 700 else delta / 2
  let d := d + d / count
  let (d, k) := shrink d d 0
  k + 36 * d / (d + 38)

def digits (bias : Nat) : Nat → Nat → Nat → List Char
  | 0, _, _ => []
  | fuel + 1, k, q =>
    let t := threshold k bias
    if q < t then [digit q] else digit (t + (q - t) % (36 - t)) :: digits bias fuel (k + 36) ((q - t) / (36 - t))

/-- How far the encoder is: what is written, the distance since the last character, and what fixes the thresholds. -/
structure Progress where
  written : List Char
  delta : Nat
  bias : Nat
  handled : Nat

/-- Goes over one character of the label while the characters of code `m` are being written. -/
def visit (basic m : Nat) (p : Progress) (c : Char) : Progress :=
  if c.toNat < m then { p with delta := p.delta + 1 }
  else if c.toNat = m then
    ⟨p.written ++ digits p.bias (p.delta + 1) 36 p.delta, 0, adapt p.delta (p.handled + 1) (p.handled == basic),
      p.handled + 1⟩
  else p

def visitAll (label : List Char) (basic : Nat) : List Nat → Nat → Progress → Progress
  | [], _, p => p
  | m :: codes, n, p =>
    let p := label.foldl (visit basic m) { p with delta := p.delta + (m - n) * (p.handled + 1) }
    visitAll label basic codes (m + 1) { p with delta := p.delta + 1 }

/-- The codes beyond ASCII in a label, ascending, each once. -/
def codes (label : List Char) : List Nat :=
  ((label.map Char.toNat).filter (128 ≤ ·)).mergeSort.eraseDups

def encode (label : List Char) : List Char :=
  let ascii := label.filter fun c => c.toNat < 128
  let start := if ascii.isEmpty then [] else ascii ++ ['-']
  (visitAll label ascii.length (codes label) 128 ⟨start, 0, 72, ascii.length⟩).written

/-- Reads one distance: its value and the text after it. -/
def distance? (bias : Nat) : Nat → Nat → Nat → List Char → Option (Nat × List Char)
  | _, _, _, [] => none
  | k, weight, acc, c :: cs =>
    match digit? c with
    | none => none
    | some d =>
      let t := threshold k bias
      let acc := acc + d * weight
      if d < t then some (acc, cs) else distance? bias (k + 36) (weight * (36 - t)) acc cs

/-- Puts characters in place for the distances in a text. -/
def insertAll : Nat → List Char → Nat → Nat → Nat → List Char → Option (List Char)
  | 0, _, _, _, _, _ => none
  | fuel + 1, cs, n, i, bias, label =>
    if cs.isEmpty then some label
    else
      match distance? bias 36 1 0 cs with
      | none => none
      | some (delta, cs) =>
        let count := label.length + 1
        let m := n + (i + delta) / count
        let j := (i + delta) % count
        if m.isValidChar then
          insertAll fuel cs m (j + 1) (adapt delta count (i == 0)) (label.take j ++ Char.ofNat m :: label.drop j)
        else none

def decode? (cs : List Char) : Option (List Char) :=
  let after := (cs.reverse.takeWhile (· != '-')).reverse
  let before := cs.take (cs.length - after.length - 1)
  insertAll (after.length + 1) after 128 0 72 before

end Parley.Url.Punycode

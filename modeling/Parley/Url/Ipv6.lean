import Parley.Text.Hex

/-!
# IPv6 addresses

An address is eight groups of 16 bits. In text one run of zero groups may be left out, and the last two groups may be
four decimal numbers.
-/

namespace Parley.Url.Ipv6

def isDigit (c : Char) : Bool := '0' ≤ c && c ≤ '9'

/-- A decimal number up to 255 without leading zeros. -/
def octet? (cs : List Char) : Option Nat :=
  let value := cs.foldl (fun acc c => acc * 10 + (c.toNat - 48)) 0
  if cs.isEmpty || !cs.all isDigit || (cs.head? == some '0' && cs.length ≠ 1) || 255 < value then none else some value

/-- Four decimal numbers as two groups. -/
def mixed? (cs : List Char) : Option (List Nat) :=
  let part (cs : List Char) := cs.takeWhile (· != '.')
  let next (cs : List Char) := (cs.dropWhile (· != '.')).tail
  let tail := next (next (next cs))
  if tail.contains '.' then none
  else
    match octet? (part cs), octet? (part (next cs)), octet? (part (next (next cs))), octet? tail with
    | some a, some b, some c, some d => some [a * 256 + b, c * 256 + d]
    | _, _, _, _ => none

def group? (cs : List Char) : Option Nat :=
  if cs.isEmpty || 4 < cs.length then none else Text.Hex.value? cs

/-- The groups read so far, the last one first, and how many there were where zeros are left out. -/
structure Progress where
  groups : List Nat := []
  gap : Option Nat := none
  deriving DecidableEq, Repr

def read : Nat → Progress → List Char → Option Progress
  | 0, _, _ => none
  | _ + 1, p, [] => some p
  | fuel + 1, p, ':' :: cs =>
    if p.gap.isSome || 8 ≤ p.groups.length then none else read fuel { p with gap := some p.groups.length } cs
  | fuel + 1, p, cs =>
    let digits := cs.takeWhile (· != ':')
    if digits.contains '.' then
      if digits.length < cs.length then none
      else (mixed? cs).map fun gs => { p with groups := gs.reverse ++ p.groups }
    else
      match group? digits with
      | none => none
      | some g =>
        let p := { p with groups := g :: p.groups }
        match cs.drop digits.length with
        | [] => some p
        | [_] => none
        | _ :: rest => read fuel p rest

/-- All eight groups, zeros put where they were left out. -/
def fill? (p : Progress) : Option (List Nat) :=
  let groups := p.groups.reverse
  match p.gap with
  | none => if groups.length = 8 then some groups else none
  | some gap =>
    if groups.length < 8 then
      some (groups.take gap ++ List.replicate (8 - groups.length) 0 ++ groups.drop gap)
    else none

def parse? (cs : List Char) : Option (List Nat) :=
  match cs with
  | [] | [_] => none
  | ':' :: ':' :: rest => (read (rest.length + 2) { gap := some 0 } rest).bind fill?
  | ':' :: _ => none
  | cs => (read (cs.length + 1) {} cs).bind fill?

/-- How many zero groups stand at the front. -/
def zeros (groups : List Nat) : Nat := (groups.takeWhile (· == 0)).length

/-- The place and length of the first of the longest runs of zero groups. -/
def longestGap (groups : List Nat) : Nat × Nat :=
  (List.range groups.length).foldl
    (fun best i => let n := zeros (groups.drop i); if best.2 < n then (i, n) else best) (0, 0)

def join (groups : List Nat) : List Char :=
  [':'].intercalate (groups.map Text.Hex.ofNat)

/-- An address in text; the longest run of zeros is left out if it has more than one group. -/
def text (groups : List Nat) : List Char :=
  let (start, length) := longestGap groups
  if length ≤ 1 then join groups
  else join (groups.take start) ++ ':' :: ':' :: join (groups.drop (start + length))

end Parley.Url.Ipv6

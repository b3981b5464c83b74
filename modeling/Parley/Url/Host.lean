import Parley.Url.Domain
import Parley.Url.Error
import Parley.Url.Ipv6
import Parley.Url.Percent

/-!
# Hosts

A host is a name or an address. A name whose last label is a number has to be an IPv4 address.
-/

namespace Parley.Url

inductive Host
  | name (text : String)
  | ipv4 (address : Nat)
  | ipv6 (groups : List Nat)
  deriving DecidableEq, Repr

/-- The digits of a number in a base below 17, or nothing when a character is no digit. -/
def digitsIn? (base : Nat) (cs : List Char) : Option Nat :=
  cs.foldlM (fun acc c => ((Text.Hex.digit? c).filter (· < base)).map (acc * base + ·)) 0

/-- One part of an IPv4 address: hexadecimal after `0x`, octal after `0`, else decimal. -/
def ipv4Number? : List Char → Option Nat
  | [] => none
  | '0' :: 'x' :: cs | '0' :: 'X' :: cs => digitsIn? 16 cs
  | '0' :: c :: cs => digitsIn? 8 (c :: cs)
  | cs => digitsIn? 10 cs

/-- The last label, not counting an empty one at the end, is a number. -/
def endsInNumber (cs : List Char) : Bool :=
  let last? :=
    match (Text.pieces '.' cs).reverse with
    | [] :: last :: _ => some last
    | [] :: [] => none
    | last :: _ => some last
    | [] => none
  match last? with
  | none => false
  | some last => (!last.isEmpty && last.all Ipv6.isDigit) || (ipv4Number? last).isSome

/-- An IPv4 address of up to four parts, of which the last one fills all that is left. -/
def ipv4? (cs : List Char) : Option Nat :=
  let parts := Text.pieces '.' cs
  let parts := if parts.getLast? == some [] then parts.dropLast else parts
  if 4 < parts.length then none
  else
    match parts.mapM ipv4Number? with
    | none => none
    | some numbers =>
      let last := numbers.getLast?.getD 0
      let front := numbers.dropLast
      if Nat.pow 256 (4 - front.length) ≤ last || front.any (255 < ·) then none
      else some (front.zipIdx.foldl (fun acc n => acc + n.1 * Nat.pow 256 (3 - n.2)) last)

namespace Host

def bracketed (cs : List Char) : Except Error Host :=
  if cs.getLast? == some ']' then
    match Ipv6.parse? cs.tail.dropLast with
    | some groups => .ok (.ipv6 groups)
    | none => .error .badIpv6
  else .error .badIpv6

def parse (cs : List Char) : Except Error Host :=
  if cs.head? == some '[' then bracketed cs
  else
    match (Text.Utf8.decode? (Percent.decode cs)).bind Domain.toAscii? with
    | none => .error .badDomain
    | some [] => .error .emptyHost
    | some ascii =>
      if endsInNumber ascii then
        match ipv4? ascii with
        | some address => .ok (.ipv4 address)
        | none => .error .badIpv4
      else .ok (.name (String.ofList ascii))

/-- Characters that may not be in a host of any other scheme. -/
def isForbidden (c : Char) : Bool :=
  "\x00\t\n\r #/:<>?@[\\]^|".toList.contains c

def parseOther (cs : List Char) : Except Error Host :=
  if cs.head? == some '[' then bracketed cs
  else if cs.any isForbidden then .error .badHostCharacter
  else .ok (.name (String.ofList (Percent.encode Percent.isControl cs)))

def text : Host → String
  | name text => text
  | ipv4 n => s!"{n / 0x1000000}.{n / 0x10000 % 256}.{n / 0x100 % 256}.{n % 256}"
  | ipv6 groups => String.ofList ('[' :: (Ipv6.text groups ++ [']']))

end Host

end Parley.Url

import Parley.Text.Hex
import Parley.Text.Utf8

/-!
# Percent encoding

`encode inSet` writes a `%` and two hexadecimal digits for every byte of the characters in a set; characters beyond
ASCII and controls are in every set. The sets grow from `isControl` to those of the parts of a URL.
-/

namespace Parley.Url.Percent

/-- Controls, and everything beyond ASCII. -/
def isControl (c : Char) : Bool := c.toNat < 0x20 || 0x7E < c.toNat

def inFragment (c : Char) : Bool := isControl c || c == ' ' || c == '"' || c == '<' || c == '>' || c == '`'

def inQuery (c : Char) : Bool := isControl c || c == ' ' || c == '"' || c == '#' || c == '<' || c == '>'

/-- The set of queries of the schemes that every browser knows. -/
def inSpecialQuery (c : Char) : Bool := inQuery c || c == '\''

def inPath (c : Char) : Bool := inFragment c || c == '#' || c == '?' || c == '{' || c == '}'

/-- The set of user names and passwords. -/
def inUserinfo (c : Char) : Bool :=
  inPath c || c == '/' || c == ':' || c == ';' || c == '=' || c == '@' || c == '[' || c == '\\' || c == ']' ||
    c == '^' || c == '|'

def byte (b : UInt8) : List Char :=
  ['%', Text.Hex.upperDigit (b.toNat / 16), Text.Hex.upperDigit b.toNat]

def encode (inSet : Char → Bool) (cs : List Char) : List Char :=
  cs.flatMap fun c => if inSet c then (String.utf8EncodeChar c).flatMap byte else [c]

/-- The bytes of a text in which `%` and two hexadecimal digits stand for a byte. -/
def decode : List Char → List UInt8
  | [] => []
  | '%' :: a :: b :: cs =>
    match Text.Hex.digit? a, Text.Hex.digit? b with
    | some h, some l => (16 * h + l).toUInt8 :: decode cs
    | _, _ => 0x25 :: decode (a :: b :: cs)
  | c :: cs => String.utf8EncodeChar c ++ decode cs

end Parley.Url.Percent

import Parley.Text.Pieces
import Parley.Url.Domain.Joining
import Parley.Url.Domain.Mapping
import Parley.Url.Domain.Permitted
import Parley.Url.Punycode

/-!
# Domain names in ASCII

Names are compared without regard to case and in one form for equivalent texts, and labels with characters beyond
ASCII are written in `xn--` form.

* `mapped?` : the form in which names are compared;
* `isLabel` : a label beyond ASCII that stands for itself;
* `toAscii?` : the form in which a name is asked for.
-/

namespace Parley.Url.Domain

def mapChar? (c : Char) : Option (List Char) :=
  if c.toNat < 128 then some [c.toLower]
  else if c = joiner || c = nonJoiner then some [c]
  else
    match replacement? c with
    | some cs => some cs
    | none => if isPermitted c then some [c] else none

def mapped? (cs : List Char) : Option (List Char) :=
  (cs.mapM mapChar?).map fun parts => Text.Canonical.compose parts.flatten

/-- Characters of ASCII that may not be in a name. -/
def isForbidden (c : Char) : Bool :=
  c.toNat ≤ 0x20 || c.toNat == 0x7F || "%#/:<>?@[\\]^|".toList.contains c

/-- The start of a label that stands for one beyond ASCII. -/
def encodedStart : List Char := "xn--".toList

def isAscii (cs : List Char) : Bool := cs.all fun c => c.toNat < 128

/-- A label beyond ASCII in the form in which names are compared: it does not begin with a mark, or as if it stood for
another one, and its joiners are of use. -/
def isLabel (label : List Char) : Bool :=
  !isAscii label && mapped? label == some label && !((label.head?.map isMark).getD false) &&
    !encodedStart.isPrefixOf label && joinersFit [] label

/-- The label that one stands for. -/
def decode? (label : List Char) : Option (List Char) :=
  if isAscii label && !encodedStart.isPrefixOf label then some label
  else
    let decoded := if isAscii label then Punycode.decode? (label.drop encodedStart.length) else some label
    decoded.filter isLabel

def encode (label : List Char) : List Char :=
  if isAscii label then label else encodedStart ++ Punycode.encode label

/-- Labels of which one is written from right to left keep to their directions. -/
def keepDirections (labels : List (List Char)) : Bool :=
  let directions := labels.map fun label => label.map Direction.ofChar
  !directions.any (fun ds => ds.any Direction.turns) || directions.all Direction.keeps

def toAscii? (name : List Char) : Option (List Char) :=
  match (mapped? name).bind fun cs => (Text.pieces '.' cs).mapM decode? with
  | none => none
  | some labels =>
    let ascii := ['.'].intercalate (labels.map encode)
    if !keepDirections labels || ascii.any isForbidden then none else some ascii

end Parley.Url.Domain

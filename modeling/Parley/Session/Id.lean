import Parley.Text.Hex
import Parley.Text.Pieces

/-!
# Session ids

A session id is 64 bits written as `xxxx-xxxx-xxxx-xxxx` with lowercase hexadecimal digits.

* `isCanonical` : the texts of that form;
* `Octets.format` : the form of eight bytes (`isCanonical_format`);
* `SessionId` : a canonical text, `SessionId.ofOctets`, `SessionId.ofUuid`, `SessionId.parse?`;
* ids are ordered by their texts.
-/

namespace Parley.Session

/-- Four characters, each `0`–`9` or `a`–`f`. -/
def isHexGroup (g : List Char) : Bool :=
  g.length == 4 && g.all Text.Hex.isLowerDigit

/-- Four groups of four lowercase hexadecimal digits with single hyphens between them. -/
def isCanonicalChars (cs : List Char) : Bool :=
  let groups := Text.pieces '-' cs
  groups.length == 4 && groups.all isHexGroup

/-- The text has the form `xxxx-xxxx-xxxx-xxxx`. -/
def isCanonical (raw : String) : Bool :=
  isCanonicalChars raw.toList

/-- The 64 bits of an id, most significant byte first. -/
abbrev Octets := Vector UInt8 8

namespace Octets

def group (a b : UInt8) : List Char :=
  Text.Hex.ofByte a ++ Text.Hex.ofByte b

/-- The four groups of an id, hyphens between them. -/
def format (v : Octets) : List Char :=
  group v[0] v[1] ++ '-' :: (group v[2] v[3] ++ '-' :: (group v[4] v[5] ++ '-' :: group v[6] v[7]))

def toNat (v : Octets) : Nat :=
  v.foldl (fun acc b => acc * 256 + b.toNat) 0

end Octets

theorem ne_hyphen_of_isLowerDigit {c : Char} (h : Text.Hex.isLowerDigit c = true) : c ≠ '-' := by
  rintro rfl; revert h; decide

theorem isHexGroup_group (a b : UInt8) : isHexGroup (Octets.group a b) = true := by
  simp [isHexGroup, Octets.group, Text.Hex.ofByte, Text.Hex.isLowerDigit_lowerDigit]

theorem ne_hyphen_of_mem_group {a b : UInt8} : ∀ c ∈ Octets.group a b, c ≠ '-' := by
  intro c hc
  have h := isHexGroup_group a b
  simp only [isHexGroup, Bool.and_eq_true, List.all_eq_true] at h
  exact ne_hyphen_of_isLowerDigit (h.2 c hc)

/-- The written form of eight bytes is canonical. -/
theorem isCanonicalChars_format (v : Octets) : isCanonicalChars v.format = true := by
  simp [isCanonicalChars, Octets.format, Text.pieces_append_separator _ _ ne_hyphen_of_mem_group,
    Text.pieces_of_no_separator _ ne_hyphen_of_mem_group, isHexGroup_group]

end Parley.Session

namespace Parley

/-- A text of the form `xxxx-xxxx-xxxx-xxxx`. -/
structure SessionId where
  text : String
  canonical : Session.isCanonical text = true
  deriving DecidableEq

namespace SessionId

def ofOctets (v : Session.Octets) : SessionId where
  text := String.ofList v.format
  canonical := by simp [Session.isCanonical, Session.isCanonicalChars_format]

/-- The bytes of a version 4 UUID that are all random: byte 6 holds the version and byte 8 the variant. -/
def randomOctets (u : Vector UInt8 16) : Session.Octets :=
  #v[u[0], u[1], u[2], u[3], u[4], u[5], u[10], u[11]]

/-- The id drawn from a version 4 UUID. -/
def ofUuid (u : Vector UInt8 16) : SessionId :=
  ofOctets (randomOctets u)

def parse? (raw : String) : Option SessionId :=
  if h : Session.isCanonical raw = true then some ⟨raw, h⟩ else none

/-- Ids are ordered by their texts. -/
def le (a b : SessionId) : Bool :=
  a.text ≤ b.text

def sort (ids : List SessionId) : List SessionId :=
  ids.mergeSort le

instance : ToString SessionId := ⟨text⟩

end SessionId

end Parley

import Parley.Text.Punctuation

/-!
# Text under a reader

A document is an array of characters, and readers work with indices into it. This module holds the classes of
characters that Markdown distinguishes and the steps over runs of them. The end of the text counts as the end of a
line.
-/

namespace Parley.Markdown

/-- The characters of a document. -/
abbrev Source := Array Char

/-- White space that does not end a line. -/
def isGap (c : Char) : Bool := c == ' ' || c == '\t' || c == '\x0b' || c == '\x0c'

def isSpace (c : Char) : Bool := isGap c || c == '\n' || c == '\r'

def isLineEnd (c : Char) : Bool := c == '\n' || c == '\r'

def isLetter (c : Char) : Bool := ('a' ≤ c && c ≤ 'z') || ('A' ≤ c && c ≤ 'Z')

def isDigit (c : Char) : Bool := '0' ≤ c && c ≤ '9'

def isAlphanumeric (c : Char) : Bool := isLetter c || isDigit c

def lower (c : Char) : Char := if 'A' ≤ c && c ≤ 'Z' then Char.ofNat (c.toNat + 32) else c

namespace Source

def isAt (s : Source) (i : Nat) (c : Char) : Bool := s[i]? == some c

def satisfies (s : Source) (i : Nat) (p : Char → Bool) : Bool := (s[i]?.map p).getD false

/-- The first index from `i` on whose character is not in the class. -/
def skipWhile (s : Source) (p : Char → Bool) (i : Nat) : Nat :=
  if h : i < s.size then
    if p s[i] then skipWhile s p (i + 1) else i
  else i
termination_by s.size - i

def runLength (s : Source) (c : Char) (i : Nat) : Nat := s.skipWhile (· == c) i - i

/-- How many characters of the class stand just before `i`, looking no further back than `start`. -/
def countBefore (s : Source) (p : Char → Bool) (start : Nat) : Nat → Nat
  | 0 => 0
  | i + 1 => if start ≤ i && s.satisfies i p then countBefore s p start i + 1 else 0

/-- The index after the line end at `i`, if there is one. -/
def lineEnd? (s : Source) (i : Nat) : Option Nat :=
  match s[i]? with
  | none => some i
  | some '\n' => some (i + 1)
  | some '\r' => some (if s.isAt (i + 1) '\n' then i + 2 else i + 1)
  | some _ => none

/-- The index after the line when nothing but white space is left of it. -/
def blankLine? (s : Source) (i : Nat) : Option Nat := s.lineEnd? (s.skipWhile isGap i)

def isBlankLine (s : Source) (i : Nat) : Bool := (s.blankLine? i).isSome

def nextLine (s : Source) (i : Nat) : Nat :=
  let j := s.skipWhile (· != '\n') i
  if j < s.size then j + 1 else s.size

def slice (s : Source) (i j : Nat) : String := String.ofList (s.extract i j).toList

def hasAt (s : Source) (i : Nat) (w : List Char) : Bool := (s.extract i (i + w.length)).toList == w

/-- The words `w` stand at `i`, letters in either case. -/
def hasAtAnyCase (s : Source) (i : Nat) (w : List Char) : Bool :=
  ((s.extract i (i + w.length)).toList.map lower) == w

/-- The first index from `i` on at which `w` stands. -/
def find? (s : Source) (w : List Char) (i : Nat) : Option Nat :=
  if h : i < s.size then
    if s.hasAt i w then some i else find? s w (i + 1)
  else none
termination_by s.size - i

end Source

end Parley.Markdown

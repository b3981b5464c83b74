import Parley.Markdown.Entity
import Parley.Text.Fold

/-!
# Labels, destinations and definitions of links

* `Label.read` : a label in brackets, in the form in which labels are compared;
* `Destination.read` : where a link goes, with or without angle brackets;
* `Definition.read` : a label, a colon, a destination and perhaps a title, which define a reference.

A label, a title and the space between the parts may go over a line end. Where the next line goes on is told by the
caller, as `Wrap`: from the index after a line end to where the text goes on, if it does.
-/

namespace Parley.Markdown

/-- Where the text goes on after a line end. -/
abbrev Wrap := Nat → Option Nat

/-- Where a link goes, and its title; the empty text for none. -/
structure Target where
  destination : String
  title : String
  deriving DecidableEq, Repr

/-- Labels in the form in which they are compared, with their targets; of two with one label the first counts. -/
abbrev Definitions := List (List Char × Target)

namespace Label

/-- What is known of a label up to some character. -/
structure Draft where
  /-- The characters so far, latest first. -/
  chars : List Char := []
  /-- Blanks and escapes weigh as much as they are long, other characters of ASCII weigh nothing. -/
  weight : Nat := 0
  /-- There is something other than blanks and escapes. -/
  solid : Bool := false

/-- A label has to weigh less than this. -/
def limit : Nat := 1000

/-- What a character beyond ASCII weighs: its length in UTF-8. -/
def weight (c : Char) : Nat := if c.toNat < 128 then 0 else c.utf8Size

/-- Goes over white space inside a label, with at most one line end. -/
def skipSpace (s : Source) (wrap : Wrap) : Nat → Bool → Nat → Option Nat
  | 0, _, i => some i
  | fuel + 1, wrapped, i =>
    match s[i]? with
    | none => some i
    | some c =>
      if isLineEnd c then
        if wrapped then none
        else ((s.lineEnd? i).bind wrap).bind (skipSpace s wrap fuel true)
      else if isSpace c then skipSpace s wrap fuel wrapped (i + 1)
      else some i

/-- The label up to the closing bracket, white space as single blanks; and the index of the bracket. In a table the
backslash that stands before a bar belongs to the table. -/
def scan (s : Source) (wrap : Wrap) (inTable : Bool) : Nat → Draft → Nat → Option (Draft × Nat)
  | 0, _, _ => none
  | fuel + 1, d, i =>
    let go := scan s wrap inTable fuel
    if limit ≤ d.weight then none
    else
      match s[i]? with
      | none => none
      | some c =>
        if c = '[' then none
        else if c = ']' then some (d, i)
        else if inTable && c == '|' && d.chars.head? == some '\\' then
          go { d with chars := '|' :: d.chars.tail } (i + 1)
        else if inTable && c == '\\' && s.isAt (i + 1) '|' then
          go { d with chars := '|' :: d.chars, weight := d.weight + 1 } (i + 2)
        else if c = '\\' then
          match s[i + 1]? with
          | none => none
          | some e => go { d with chars := e :: c :: d.chars, weight := d.weight + 2 } (i + 2)
        else if isSpace c then
          (skipSpace s wrap (s.size + 1) false i).bind fun j =>
            go { d with chars := ' ' :: d.chars, weight := d.weight + (j - i) } j
        else go ⟨c :: d.chars, d.weight + weight c, true⟩ (i + 1)

/-- The label after the bracket before `i`: the form in which labels are compared, and the index after the closing
bracket. A label holds something other than white space and escapes. -/
def read (s : Source) (wrap : Wrap) (inTable : Bool) (i : Nat) : Option (List Char × Nat) :=
  match scan s wrap inTable (s.size + 1) {} i with
  | none => none
  | some (d, stop) =>
    if d.solid then
      some (Text.fold (((d.chars.dropWhile isSpace).reverse).dropWhile isSpace), stop + 1)
    else none

end Label

namespace Destination

/-- The end of a destination in angle brackets. -/
def pointed (s : Source) : Nat → Nat → Option Nat
  | 0, _ => none
  | fuel + 1, i =>
    match s[i]? with
    | none => none
    | some c =>
      if isLineEnd c || c == '<' then none
      else if c = '>' then some i
      else if c = '\\' && s.satisfies (i + 1) Text.isAsciiPunctuation then pointed s fuel (i + 2)
      else pointed s fuel (i + 1)

/-- How many parentheses may be open where another one opens. -/
def maxOpen : Nat := 32

/-- The end of a destination without angle brackets, in which parentheses are balanced. -/
def bare (s : Source) : Nat → Nat → Nat → Option Nat
  | 0, _, _ => none
  | fuel + 1, depth, i =>
    let stop := if depth = 0 then some i else none
    match s[i]? with
    | none => stop
    | some c =>
      if c.toNat ≤ 0x20 then stop
      else if c = '(' then if maxOpen < depth then none else bare s fuel (depth + 1) (i + 1)
      else if c = ')' then if depth = 0 then stop else bare s fuel (depth - 1) (i + 1)
      else if c = '\\' && s.satisfies (i + 1) Text.isAsciiPunctuation then bare s fuel depth (i + 2)
      else bare s fuel depth (i + 1)

/-- The destination at `i` as written, and the index after it. -/
def read (s : Source) (i : Nat) : Option (List Char × Nat) :=
  if s.isAt i '<' then
    (pointed s (s.size + 1) (i + 1)).map fun stop => ((s.extract (i + 1) stop).toList, stop + 1)
  else
    (bare s (s.size + 1) 0 i).map fun stop => ((s.extract i stop).toList, stop)

end Destination

namespace Definition

/-- The title from `i` on, up to its closing character, latest first; and the index after that. -/
def titleRest (s : Source) (wrap : Wrap) (close : Char) : Nat → List Char → Nat → Option (List Char × Nat)
  | 0, _, _ => none
  | fuel + 1, acc, i =>
    match s[i]? with
    | none => none
    | some c =>
      if c = close then some (acc, i + 1)
      else if isLineEnd c then
        match s.lineEnd? i with
        | none => none
        | some next => (wrap next).bind (titleRest s wrap close fuel ('\n' :: acc))
      else if c = '\\' && !s.satisfies (i + 1) isLineEnd then
        match s[i + 1]? with
        | none => none
        | some d => titleRest s wrap close fuel (d :: c :: acc) (i + 2)
      else titleRest s wrap close fuel (c :: acc) (i + 1)

/-- The title at `i` as written, and the index after it. -/
def title? (s : Source) (wrap : Wrap) (i : Nat) : Option (List Char × Nat) :=
  let close :=
    match s[i]? with
    | some '"' => some '"'
    | some '\'' => some '\''
    | some '(' => some ')'
    | _ => none
  match close with
  | none => none
  | some close => (titleRest s wrap close (s.size + 1) [] (i + 1)).map fun r => (r.1.reverse, r.2)

/-- White space with at most one line end between the parts of a definition: the index after it, and whether there was
a line end. -/
def space? (s : Source) (wrap : Wrap) (i : Nat) : Option (Nat × Bool) :=
  let i := s.skipWhile isGap i
  match s.lineEnd? i with
  | none => some (i, false)
  | some next =>
    match wrap next with
    | none => none
    | some i =>
      let i := s.skipWhile isGap i
      if (s.lineEnd? i).isSome then none else some (i, true)

/-- What follows the destination that ends at `i`: the title, and the index after the definition. A title that is none
is text of the next line, if there is one. -/
def afterDestination (s : Source) (inText inSpace : Wrap) (i : Nat) : Option (List Char × Nat) :=
  match space? s inSpace i with
  | none => some ([], i)
  | some (j, wrapped) =>
    if j = i && !wrapped then none
    else
      let without := if wrapped then some ([], i) else none
      match title? s inText j with
      | none => without
      | some (title, stop) => if s.isBlankLine stop then some (title, stop) else without

/-- The definition at `i`: its label, its target, and the index after it. -/
def read (s : Source) (inTable : Bool) (inText inSpace : Wrap) (i : Nat) : Option (List Char × Target × Nat) :=
  if !s.isAt i '[' then none
  else
    match Label.read s inText inTable (i + 1) with
    | none => none
    | some (label, j) =>
      if !s.isAt j ':' then none
      else
        match space? s inSpace (j + 1) with
        | none => none
        | some (j, _) =>
          match Destination.read s j with
          | none => none
          | some (destination, stop) =>
            if stop = j then none
            else
              (afterDestination s inText inSpace stop).map fun (title, next) =>
                (label, ⟨plainText inTable destination, plainText inTable title⟩, next)

end Definition

end Parley.Markdown

import Parley.Markdown.Cursor

/-!
# The head of a table

A table begins with a line of header cells and a line of hyphens that gives as many columns and their alignments.
-/

namespace Parley.Markdown

inductive Alignment
  | none | left | center | right
  deriving DecidableEq, Repr

namespace Table

/-- What is known of a delimiter line up to some character. -/
structure Delimiters where
  columns : List Alignment := []
  current : Alignment := .none
  /-- Nothing but blanks yet in the current column. -/
  fresh : Bool := true
  bar : Bool := false
  hyphen : Bool := false
  hyphenInColumn : Bool := false

/-- The delimiters after one more character; nothing for a character or an empty column that may not be there. -/
def Delimiters.step (d : Delimiters) (c : Char) : Option Delimiters :=
  if c = ' ' then some d
  else if c = ':' then
    let current :=
      match d.fresh, d.current with
      | true, .none => Alignment.left
      | false, .left => .center
      | false, .none => .right
      | _, a => a
    some { d with current, fresh := false }
  else if c = '-' then some { d with fresh := false, hyphen := true, hyphenInColumn := true }
  else if c = '|' then
    if d.hyphenInColumn then
      some { d with columns := d.columns ++ [d.current], current := .none, fresh := true, bar := true,
                    hyphenInColumn := false }
    else none
  else none

/-- The alignments in the delimiter line at `i`, and the index after the line. -/
def delimiterLine? (s : Source) (i : Nat) : Option (List Alignment × Nat) :=
  let (indent, c) := (Cursor.start i).takeUpTo s 4
  if 3 < indent || s.size ≤ c.pos then none
  else
    let bar := s.isAt c.pos '|'
    let start := if bar then c.pos + 1 else c.pos
    let stop := s.skipWhile (fun c => !isLineEnd c) start
    match (s.extract start stop).toList.foldlM Delimiters.step { bar } with
    | none => none
    | some d =>
      if d.bar && d.hyphen then
        some (if d.fresh then d.columns else d.columns ++ [d.current], (s.lineEnd? stop).getD stop)
      else none

/-- The number of columns of a header line at `i` in which so many bars stand, the last of them at `last`. -/
def columnCount (s : Source) (i bars last : Nat) : Nat :=
  let bars := if s.isAt (s.skipWhile isGap i) '|' then bars - 1 else bars
  if s.isBlankLine (last + 1) then bars else bars + 1

/-- The alignments of the table whose header line at `i` ends before `next`, and the index of its first row. -/
def head? (s : Source) (containers : List Container) (i bars last next : Nat) : Option (List Alignment × Nat) :=
  let (entered, c) := Cursor.enter s containers (.start next)
  if entered < containers.length then none
  else
    match delimiterLine? s c.pos with
    | none => none
    | some (alignments, after) => if alignments.length = columnCount s i bars last then some (alignments, after) else none

/-- The bars of the line at `i` that no backslash precedes: how many there are, and where the last one is. A backslash
takes effect on the next character only. -/
def bars (s : Source) : Nat → Nat → Bool → Nat × Nat → Nat × Nat
  | 0, _, _, found => found
  | fuel + 1, i, escaped, found =>
    match s[i]? with
    | none => found
    | some c =>
      if isLineEnd c then found
      else if c = '\\' then bars s fuel (i + 1) true found
      else if c = '|' && !escaped then bars s fuel (i + 1) false (found.1 + 1, i)
      else bars s fuel (i + 1) false found

/-- A table whose header line begins with a bar starts at `i`, so that it may end a paragraph before it. -/
def interrupts (s : Source) (containers : List Container) (i : Nat) : Bool :=
  if s.isAt i '|' then
    let stop := s.skipWhile (fun c => !isLineEnd c) i
    if stop < s.size then
      let (count, last) := bars s (s.size + 1) i false (0, i)
      (head? s containers i count last ((s.lineEnd? stop).getD stop)).isSome
    else false
  else false

end Table

end Parley.Markdown

import Parley.Markdown.Source

/-!
# The start of a line

A `Cursor` walks over the indentation and the container markers at the start of a line. A tab goes to the next multiple
of four columns, and what is left of it is kept when only a part of its width is taken.

* `Cursor.takeSpaces`, `Cursor.takeUpTo`, `Cursor.takeAll` : indentation;
* `Cursor.quoteMarker?`, `Cursor.listMarker?`, `Cursor.taskMarker?` : markers;
* `Cursor.enter` : the open containers that a line goes on with.
-/

namespace Parley.Markdown

/-- A place in the indentation of a line. -/
structure Cursor where
  pos : Nat
  /-- Where the columns are counted from. -/
  tabStart : Nat
  /-- Columns of a tab that are not taken yet. -/
  left : Nat
  deriving DecidableEq, Repr

/-- A container that a line goes on with by its marker or its indentation. -/
inductive Container
  | quote
  | list
  | item (indent : Nat)
  deriving DecidableEq, Repr

/-- A rule across the page: at least three of one of `*`, `-`, `_`, with nothing but blanks between them. The index
after its line. -/
def rule? (s : Source) (i : Nat) : Option Nat :=
  match s[i]? with
  | none => none
  | some c =>
    if c == '*' || c == '-' || c == '_' then
      let stop := s.skipWhile (fun d => d == c || d == ' ' || d == '\t') i
      let count := ((s.extract i stop).toList.filter (· == c)).length
      if 3 ≤ count then s.lineEnd? stop else none
    else none

structure ListMarker where
  /-- `-`, `+` or `*`, or what follows the number: `.` or `)`. -/
  delimiter : Char
  start : Nat
  /-- How far the content of the item is indented. -/
  indent : Nat
  deriving DecidableEq, Repr

def decimal (cs : List Char) : Nat := cs.foldl (fun n c => n * 10 + (c.toNat - 48)) 0

namespace Cursor

def start (i : Nat) : Cursor := ⟨i, i, 0⟩

/-- Takes columns as long as there are some; answers how many of `n` are missing. -/
def take (s : Source) : Nat → Nat → Cursor → Nat × Cursor
  | 0, n, c => (n, c)
  | _, 0, c => (0, c)
  | fuel + 1, n + 1, c =>
    if 0 < c.left then take s fuel n { c with left := c.left - 1 }
    else
      match s[c.pos]? with
      | some ' ' => take s fuel n { c with pos := c.pos + 1 }
      | some '\t' =>
        let width := 4 - (c.pos - c.tabStart) % 4
        take s fuel n ⟨c.pos + 1, c.pos + 1, width - 1⟩
      | _ => (n + 1, c)

/-- Takes `n` columns if there are as many; otherwise all there are. -/
def takeSpaces (s : Source) (n : Nat) (c : Cursor) : Bool × Cursor :=
  let (missing, c) := take s n n c
  (missing == 0, c)

/-- Takes up to `n` columns and counts them. -/
def takeUpTo (s : Source) (n : Nat) (c : Cursor) : Nat × Cursor :=
  let (missing, c) := take s n n c
  (n - missing, c)

def takeAll (s : Source) (c : Cursor) : Cursor :=
  { c with pos := s.skipWhile (fun d => d == ' ' || d == '\t') c.pos, left := 0 }

def isAtLineEnd (s : Source) (c : Cursor) : Bool := (s[c.pos]?.map isLineEnd).getD true

def takeChar? (s : Source) (d : Char) (c : Cursor) : Option Cursor :=
  if s.isAt c.pos d then some { c with pos := c.pos + 1 } else none

def quoteMarker? (s : Source) (c : Cursor) : Option Cursor :=
  (c.takeChar? s '>').map fun c => (c.takeSpaces s 1).2

/-- Ends a list marker: the content may stand up to four columns further on. -/
def finishMarker (s : Source) (delimiter : Char) (start indent : Nat) (c : Cursor) : ListMarker × Cursor :=
  if s.isBlankLine c.pos then (⟨delimiter, start, indent⟩, c)
  else
    let (more, c') := c.takeUpTo s 4
    if more < 4 then (⟨delimiter, start, indent + more⟩, c') else (⟨delimiter, start, indent⟩, c)

/-- The marker of a list item after `indent` columns, with the space it needs. -/
def listMarker? (s : Source) (indent : Nat) (c : Cursor) : Option (ListMarker × Cursor) :=
  match s[c.pos]? with
  | none => none
  | some d =>
    if d == '-' || d == '+' || d == '*' then
      if (rule? s c.pos).isSome then none
      else
        let (spaced, c') := { c with pos := c.pos + 1 }.takeSpaces s 1
        if spaced || c'.isAtLineEnd s then some (finishMarker s d 0 (indent + 2) c') else none
    else
      let digits := (s.extract c.pos (min (s.skipWhile isDigit c.pos) (c.pos + 10))).toList
      let after := c.pos + digits.length
      if 1 ≤ digits.length && digits.length ≤ 9 && (s.isAt after '.' || s.isAt after ')') then
        let (spaced, c') := { c with pos := after + 1 }.takeSpaces s 1
        if spaced || c'.isAtLineEnd s then
          some (finishMarker s (if s.isAt after '.' then '.' else ')') (decimal digits) (indent + digits.length + 2) c')
        else none
      else none

/-- The box of a task, and whether it is checked. -/
def taskMarker? (s : Source) (c : Cursor) : Option (Bool × Cursor) :=
  match (c.takeUpTo s 3).2.takeChar? s '[' with
  | none => none
  | some c =>
    let checked := s.isAt c.pos 'x' || s.isAt c.pos 'X'
    if (checked || s.satisfies c.pos isGap) && s.isAt (c.pos + 1) ']' && s.satisfies (c.pos + 2) isSpace then
      some (checked, { c with pos := c.pos + 2 })
    else none

/-- How many of the open containers, from the outermost, the line goes on with. -/
def enter (s : Source) : List Container → Cursor → Nat × Cursor
  | [], c => (0, c)
  | .list :: rest, c =>
    let (n, c) := enter s rest c
    (n + 1, c)
  | .quote :: rest, c =>
    match (c.takeSpaces s 3).2.quoteMarker? s with
    | none => (0, c)
    | some c =>
      let (n, c) := enter s rest c
      (n + 1, c)
  | .item indent :: rest, c =>
    let (all, c') := c.takeSpaces s indent
    if all || c'.isAtLineEnd s then
      let (n, c) := enter s rest c'
      (n + 1, c)
    else (0, c)

end Cursor

/-- The index after the markers and indentation of the open containers in the line at `i`. -/
def Source.skipContainers (s : Source) (containers : List Container) (i : Nat) : Nat :=
  (Cursor.enter s containers (.start i)).2.pos

end Parley.Markdown

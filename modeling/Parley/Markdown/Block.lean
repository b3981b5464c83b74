import Parley.Markdown.Reference
import Parley.Markdown.Tag
import Parley.Markdown.Token

/-!
# The blocks of a document

`Document.ofSource` reads a document block by block. A line first goes on with the open containers (quotes and list
items), then may open new ones, and what is left of it begins or continues a leaf: a heading, a rule, code, HTML, a
table or a paragraph. Definitions of references are collected on the way. The inline content of a leaf stays a list of
tokens, because a reference may be defined after it is used.
-/

namespace Parley.Markdown

/-- Inline content that is not resolved yet, with what its resolution depends on: the open containers, whose markers
stand at the start of its lines, whether it is in a table, and where the text of its block ends. -/
structure Leaf where
  tokens : List Token
  containers : List Container
  inTable : Bool
  stop : Nat

inductive Block
  | paragraph (content : Leaf)
  | heading (level : Nat) (content : Leaf)
  | rule
  /-- Code, and for fenced code the text after the fence. -/
  | code (info : Option String) (text : String)
  | html (text : String)
  | table (alignments : List Alignment) (head : List Leaf) (rows : List (List Leaf))
  | quote (children : List Block)
  /-- Items, the number of the first one in an ordered list, and whether paragraphs in them stand on their own. -/
  | list (tight : Bool) (start : Option Nat) (items : List (List Block))
  /-- The box of a task whose text is not on the same line. -/
  | task (checked : Bool)

/-- An open container with what it holds so far, the latest first. -/
inductive Frame
  | quote (blocks : List Block)
  | list (tight : Bool) (delimiter : Char) (start : Nat) (items : List (List Block))
  | item (indent : Nat) (blocks : List Block)

def Frame.container : Frame → Container
  | quote _ => .quote
  | list .. => .list
  | item indent _ => .item indent

structure Reading where
  source : Source
  options : Options
  /-- The open containers, the innermost first. -/
  frames : List Frame := []
  /-- The finished blocks outside all containers, the latest first. -/
  blocks : List Block := []
  definitions : Definitions := []
  /-- A list item was opened by a line with nothing else on it, and nothing has followed. -/
  emptyItem : Bool := false
  blankBefore : Bool := false
  /-- The box of a task, which the next paragraph begins with. -/
  task : Option Token := none

namespace Reading

def containers (r : Reading) : List Container := (r.frames.map Frame.container).reverse

def add (r : Reading) (b : Block) : Reading :=
  match r.frames with
  | .quote bs :: rest => { r with frames := .quote (b :: bs) :: rest }
  | .item indent bs :: rest => { r with frames := .item indent (b :: bs) :: rest }
  | _ => { r with blocks := b :: r.blocks }

def close (r : Reading) : Reading :=
  match r.frames with
  | [] => r
  | .quote bs :: rest => { r with frames := rest }.add (.quote bs.reverse)
  | .item _ bs :: .list tight delimiter start items :: rest =>
    { r with frames := .list tight delimiter start (bs.reverse :: items) :: rest }
  | .item _ bs :: rest => bs.foldr (fun b r => r.add b) { r with frames := rest }
  | .list tight delimiter start items :: rest =>
    let ordered := delimiter == '.' || delimiter == ')'
    { r with frames := rest, emptyItem := r.emptyItem && !tight }.add
      (.list tight (if ordered then some start else none) items.reverse)

/-- Closes containers until only `n` are open. -/
def closeTo (n : Nat) : Nat → Reading → Reading
  | 0, r => r
  | fuel + 1, r => if n < r.frames.length then closeTo n fuel r.close else r

/-- The list, if it is the innermost but one container, is no longer tight. -/
def loosen (r : Reading) : Reading :=
  match r.frames with
  | top :: .list _ delimiter start items :: rest =>
    { r with frames := top :: .list false delimiter start items :: rest }
  | _ => r

/-- An item that begins with two blank lines ends there. -/
def finishEmptyItem (r : Reading) : Reading :=
  let r' := { r with emptyItem := false }
  if r.emptyItem && r.blankBefore then
    match r.frames with
    | .item .. :: _ => { r'.close with emptyItem := false }
    | _ => r'
  else r'

/-- Something other than an item of the innermost list comes. -/
def finishList (r : Reading) : Reading :=
  let r := r.finishEmptyItem
  let r :=
    match r.frames with
    | .list .. :: _ => r.close
    | _ => r
  if r.blankBefore then { r.loosen with blankBefore := false } else r

/-- An item with this delimiter comes: it goes on with the innermost list, or opens a list. -/
def continueList (r : Reading) (delimiter : Char) (start : Nat) : Reading :=
  let r := r.finishEmptyItem
  let opened (r : Reading) : Reading :=
    { r with frames := .list true delimiter start [] :: r.frames, blankBefore := false }
  match r.frames with
  | .list _ d n items :: rest =>
    if d = delimiter then
      if r.blankBefore then { r with frames := .list false d n items :: rest, blankBefore := false } else r
    else opened r.finishList
  | [] => opened r
  | _ => opened r.finishList

/-- A blank line comes. A quote does not make the list around it loose. -/
def blankLine (r : Reading) : Reading :=
  match r.frames with
  | .quote _ :: _ => r
  | .item indent bs :: rest =>
    if r.emptyItem then { r with frames := .item 0 bs :: rest, blankBefore := true }
    else { r with frames := .item indent bs :: rest, blankBefore := true }
  | _ => { r with blankBefore := true }

def leaf (r : Reading) (inTable : Bool) (tokens : List Token) (stop : Nat) : Leaf :=
  ⟨tokens, r.containers, inTable, stop⟩

/-! ## What ends a paragraph -/

end Reading

/-- The heading level that an underline at `i` gives, and the index after its line. -/
def underline? (s : Source) (i : Nat) : Option (Nat × Nat) :=
  match s[i]? with
  | some '=' => (s.blankLine? (s.skipWhile (· == '=') i)).map fun next => (1, next)
  | some '-' => (s.blankLine? (s.skipWhile (· == '-') i)).map fun next => (2, next)
  | _ => none

/-- The level of a heading that begins with number signs. -/
def headingLevel? (s : Source) (i : Nat) : Option Nat :=
  let level := s.runLength '#' i
  if 1 ≤ level && level ≤ 6 && (s[i + level]?.map isSpace).getD true then some level else none

def fence? (s : Source) (i : Nat) : Option (Nat × Char) :=
  match s[i]? with
  | none => none
  | some c =>
    if c == '\x60' || c == '~' then
      let count := s.runLength c i
      if count < 3 then none
      else if c == '\x60' && (s.extract (i + count) (s.nextLine (i + count))).contains '\x60' then none
      else some (count, c)
    else none

/-- A list item at `i`: its delimiter, its number and the index after the marker. -/
def itemStart? (s : Source) (i : Nat) : Option (Char × Nat × Nat) :=
  let spaced (j : Nat) : Bool := (s[j]?.map fun c => c == ' ' || c == '\t' || isLineEnd c).getD true
  match s[i]? with
  | none => none
  | some c =>
    if c == '-' || c == '+' || c == '*' then if spaced (i + 1) then some (c, 0, i + 1) else none
    else
      let digits := (s.extract i (min (s.skipWhile isDigit i) (i + 9))).toList
      let j := i + digits.length
      if digits ≠ [] && (s.isAt j '.' || s.isAt j ')') && spaced (j + 1) then
        some (if s.isAt j '.' then '.' else ')', decimal digits, j + 1)
      else none

/-- The line at `i` and the line after it are blank. -/
def twoBlankLines (s : Source) (i : Nat) : Bool :=
  match s.blankLine? i with
  | none => false
  | some next => s.isBlankLine next

/-- Something other than a table begins at `i` that ends a paragraph or a table before it. An empty item, or a list
that does not begin with 1, does not end a paragraph in its own container. -/
def interruptsPlain (s : Source) (sameContainer inTable : Bool) (i : Nat) : Bool :=
  (s.lineEnd? i).isSome || (rule? s i).isSome || (headingLevel? s i).isSome || (fence? s i).isSome || s.isAt i '>' ||
    (match itemStart? s i with
      | none => false
      | some (d, start, next) =>
        !sameContainer || inTable || ((d == '*' || d == '-' || d == '+' || start == 1) && !twoBlankLines s next)) ||
    (s.isAt i '<' && ((HtmlBlock.terminator? s (i + 1)).isSome || HtmlBlock.startsBlock s (i + 1)))

namespace Reading

/-- Something begins at `i` that ends a paragraph before it. -/
def interrupts (r : Reading) (sameContainer : Bool) (i : Nat) : Bool :=
  interruptsPlain r.source sameContainer false i || (r.options.tables && Table.interrupts r.source r.containers i)

/-- Where the text of a label or a title goes on in the line at `i`. -/
def resumeText (r : Reading) (i : Nat) : Option Nat :=
  let (n, c) := Cursor.enter r.source r.containers (.start i)
  let same := n == r.frames.length
  if r.interrupts same c.pos || (same && (underline? r.source c.pos).isSome) then none else some c.pos

/-- Where a definition goes on after a line end, in the line at `i`. -/
def resumeSpace (r : Reading) (i : Nat) : Option Nat :=
  let (n, c) := Cursor.enter r.source r.containers (.start i)
  let (deep, c) := c.takeSpaces r.source 4
  if !deep && (r.interrupts (n == r.frames.length) c.pos || (underline? r.source c.pos).isSome) then none
  else some c.pos

/-! ## Leaves -/

/-- The lines from `i` up to `j` as they stand in code and HTML, after some columns that are left of a tab. -/
def chunk (s : Source) (columns i j : Nat) : String :=
  let pad := String.ofList (List.replicate columns ' ')
  if 2 ≤ j && s.isAt (j - 2) '\r' && s.satisfies (j - 1) (fun c => c.toNat < 128) then
    pad ++ s.slice i (j - 2) ++ s.slice (max i (j - 1)) j
  else pad ++ s.slice i j

/-- Indented code from `i` on: its text and the index after it. Blank lines are part of it only between others:
`kept` is the text up to the last line that is not blank, `text` all of it. -/
def indentedCode (r : Reading) : Nat → Nat → Nat → Bool → String → String → Nat → String × Nat
  | 0, _, _, _, _, kept, keptStop => (kept, keptStop)
  | fuel + 1, i, columns, blank, text, kept, keptStop =>
    let s := r.source
    let next := s.nextLine i
    let text := text ++ chunk s columns i next
    let (kept, keptStop) := if blank then (kept, keptStop) else (text, next)
    let (n, c) := Cursor.enter s r.containers (.start next)
    let (deep, c) := c.takeSpaces s 4
    if n < r.frames.length || !(deep || c.isAtLineEnd s) || c.pos = s.size then (kept, keptStop)
    else indentedCode r fuel c.pos c.left (s.isBlankLine c.pos) text kept keptStop

/-- The index after a fence at `i` that closes one of `count` characters `mark`. -/
def closingFence? (s : Source) (mark : Char) (count i : Nat) : Option Nat :=
  if s.size ≤ i then some i
  else
    let found := s.runLength mark i
    if found < count then none
    else
      let j := s.skipWhile (· == ' ') (i + found)
      if (s.lineEnd? j).isSome then some j else none

/-- Fenced code from the line at `i` on: its text and the index after it. -/
def fencedCode (r : Reading) (indent count : Nat) (mark : Char) : Nat → Nat → String → String × Nat
  | 0, i, text => (text, i)
  | fuel + 1, i, text =>
    let s := r.source
    let (n, c) := Cursor.enter s r.containers (.start i)
    if n < r.frames.length then (text, i)
    else
      let c := (c.takeSpaces s indent).2
      let (deep, c') := c.takeSpaces s (4 - indent)
      match if deep then none else closingFence? s mark count c'.pos with
      | some j => (text, (s.blankLine? j).getD j)
      | none =>
        let next := s.nextLine c.pos
        fencedCode r indent count mark fuel next (text ++ chunk s c.left c.pos next)

/-- HTML from `i` on, up to a line with `terminator`, or to a blank line if there is none: its text and the index after
it. -/
def htmlLines (r : Reading) (terminator : Option (List Char)) : Nat → Nat → Nat → String → String × Nat
  | 0, i, _, text => (text, i)
  | fuel + 1, i, columns, text =>
    let s := r.source
    let next := s.nextLine i
    let text := text ++ chunk s columns i next
    let (n, c) := Cursor.enter s r.containers (.start next)
    let ended :=
      match terminator with
      | some w =>
        match s.find? w i with
        | some at_ => at_ + w.length ≤ next
        | none => false
      | none => c.isAtLineEnd s || s.isBlankLine c.pos
    if n < r.frames.length || ended || c.pos = s.size then (text, next)
    else htmlLines r terminator fuel c.pos c.left text

/-! ## Tables -/

def setting (r : Reading) (mode : Mode) : Line.Setting := ⟨r.source, r.options, r.containers, mode⟩

/-- The cells of the row at `i`, and the index after its line. -/
def cells (r : Reading) : Nat → Nat → List Leaf × Nat
  | 0, i => ([], i)
  | fuel + 1, i =>
    let s := r.source
    let i := if s.isAt i '|' then i + 1 else i
    let i := s.skipWhile isGap i
    match s.lineEnd? i with
    | some next => ([], next)
    | none =>
      let line := Line.read (r.setting .cell) i
      let (rest, next) := cells r fuel line.next
      (r.leaf true line.tokens line.next :: rest, next)

/-- A row with exactly `n` cells. -/
def fit (r : Reading) (n stop : Nat) (row : List Leaf) : List Leaf :=
  row.take n ++ List.replicate (n - row.length) (r.leaf true [] stop)

/-- The rows from the line at `i` on, and the index after them. -/
def rows (r : Reading) (n : Nat) : Nat → Nat → List (List Leaf) × Nat
  | 0, i => ([], i)
  | fuel + 1, i =>
    let s := r.source
    let (entered, c) := Cursor.enter s r.containers (.start i)
    let start := (c.takeAll s).pos
    if entered < r.frames.length || interruptsPlain s true true start || s.isBlankLine start then ([], i)
    else
      match r.cells (s.size + 1) start with
      | ([], _) => ([], i)
      | (row, next) =>
        let (rest, stop) := rows r n fuel next
        (r.fit n next row :: rest, stop)

/-! ## Paragraphs -/

/-- The lines of a paragraph from `i` on, after the tokens `acc`, latest first. -/
def paragraph (r : Reading) : Nat → Bool → List Token → Nat → Block × Nat
  | 0, _, acc, i => (.paragraph (r.leaf false acc.reverse i), i)
  | fuel + 1, first, acc, i =>
    let s := r.source
    let line := Line.read (r.setting (if r.options.tables && first then .head else .text)) i
    match line.ending with
    | .table alignments =>
      let (head, _) := r.cells (s.size + 1) i
      let (rows, next) := r.rows alignments.length (s.size + 1) line.next
      (.table alignments (r.fit alignments.length i head) rows, next)
    | ending =>
      let acc := line.tokens.reverse ++ acc
      -- a backslash that breaks no line stays
      let ended :=
        if ending = .hard true then Line.addText acc line.stop (line.stop + 1) else acc
      let done (next : Nat) : Block × Nat := (.paragraph (r.leaf false ended.reverse next), next)
      let (n, c) := Cursor.enter s r.containers (.start line.next)
      let same := n == r.frames.length
      let (deep, c) := c.takeSpaces s 4
      match if deep || !same then none else underline? s c.pos with
      | some (level, next) => (.heading level (r.leaf false ended.reverse next), next)
      | none =>
        if !deep && r.interrupts same c.pos then done line.next
        else
          let c := c.takeAll s
          if c.isAtLineEnd s then done line.next
          else
            let acc :=
              match ending with
              | .soft => ⟨.softBreak, line.stop, line.next⟩ :: acc
              | .hard byBackslash => ⟨.hardBreak byBackslash, line.stop, line.next⟩ :: acc
              | _ => acc
            paragraph r fuel false acc c.pos

/-- The heading of `level` number signs at `i`. The number signs at its end are no part of it, when blanks stand
before them. -/
def numberedHeading (r : Reading) (level i : Nat) : Block × Nat :=
  let s := r.source
  match s.lineEnd? (i + level) with
  | some next => (.heading level (r.leaf false [] next), next)
  | none =>
    let start := s.skipWhile isGap (i + level)
    let line := Line.read (r.setting .text) start
    let tokens :=
      if line.ending = .hard true then (Line.addText line.tokens.reverse line.stop line.next).reverse else line.tokens
    let filled := line.next - s.countBefore (fun c => isLineEnd c || c == ' ') start line.next
    let closer := filled - s.countBefore (· == '#') start filled
    let blanks := s.countBefore (· == ' ') start closer
    let stop := if closer = start then start else if 0 < blanks then closer - blanks else filled
    let tokens :=
      match tokens.reverse with
      | [] => []
      | t :: before => ({ t with stop } :: before).reverse
    (.heading level (r.leaf false tokens line.next), line.next)

/-! ## Lines -/

/-- Opens containers from the cursor on, which is in the line of `lineStart`. Answers with what is open then and the
cursor before the rest of the line, or with the index after the line when nothing is left of it. -/
def openContainers (r : Reading) : Nat → Cursor → Reading × (Cursor ⊕ Nat)
  | 0, c => (r, .inl c)
  | fuel + 1, c =>
    let s := r.source
    let (indent, c') := c.takeUpTo s 4
    if 4 ≤ indent then (r, .inl c)
    else
      match c'.listMarker? s indent with
      | some (marker, c') =>
        let r := r.continueList marker.delimiter marker.start
        let r := { r with frames := .item marker.indent [] :: r.frames }
        match s.blankLine? c'.pos with
        | some next => ({ r with emptyItem := true }, .inr next)
        | none =>
          match if r.options.taskLists then c'.taskMarker? s else none with
          | some (checked, box) =>
            match s.blankLine? box.pos with
            | some next => ({ r.add (.task checked) with emptyItem := true }, .inr next)
            | none => openContainers { r with task := some ⟨.task checked, c'.pos, box.pos⟩ } fuel box
          | none => openContainers r fuel c'
      | none =>
        match c'.quoteMarker? s with
        | some c' =>
          let r := r.finishList
          openContainers { r with frames := .quote [] :: r.frames } fuel c'
        | none => (r, .inl c)

/-- The leaf that begins at the cursor, or the definition there. -/
def leafBlock (r : Reading) (c : Cursor) : Reading × Nat :=
  let s := r.source
  let r := r.finishList
  let (indent, c') := c.takeUpTo s 4
  let i := c'.pos
  let html (terminator : Option (List Char)) : Reading × Nat :=
    let (text, next) := r.htmlLines terminator (s.size + 1) i (max c.left indent) ""
    (r.add (.html text), next)
  if 4 ≤ indent then
    let (text, next) := r.indentedCode (s.size + 1) i c'.left false "" "" i
    (r.add (.code none text), next)
  else if s.isAt i '<' && (HtmlBlock.terminator? s (i + 1)).isSome then html (HtmlBlock.terminator? s (i + 1))
  else if s.isAt i '<' && (HtmlBlock.startsBlock s (i + 1) || HtmlBlock.isLoneTag s i) then html none
  else
    match rule? s i with
    | some next => (r.add .rule, next)
    | none =>
      match headingLevel? s i with
      | some level =>
        let (b, next) := r.numberedHeading level i
        (r.add b, next)
      | none =>
        match fence? s i with
        | some (count, mark) =>
          let start := s.skipWhile isGap (i + count)
          let next := s.nextLine start
          let stop := next - s.countBefore isSpace start next
          let info := plainText false (s.extract start stop).toList
          let (text, next) := r.fencedCode indent count mark (s.size + 1) next ""
          (r.add (.code (some info) text), next)
        | none =>
          match Definition.read s false r.resumeText r.resumeSpace i with
          | some (label, target, next) =>
            ({ r with definitions := r.definitions ++ [(label, target)] }, (s.blankLine? next).getD next)
          | none =>
            let (b, next) := r.paragraph (s.size + 1) true r.task.toList i
            ({ r with task := none }.add b, next)

/-- What begins at the start of the line at `i`, and the index after it. -/
def step (r : Reading) (i : Nat) : Reading × Nat :=
  let s := r.source
  let (n, c) := Cursor.enter s r.containers (.start i)
  let r := closeTo n r.frames.length r
  match r.openContainers (s.size + 1) c with
  | (r, .inr next) => (r, next)
  | (r, .inl c) =>
    match s.blankLine? c.pos with
    | some next => (r.blankLine, next)
    | none => r.leafBlock c

/-- Everything from the line at `i` on. -/
def run : Nat → Nat → Reading → Reading
  | 0, _, r => r
  | fuel + 1, i, r =>
    if i < r.source.size then
      let (r, next) := r.step i
      run fuel next r
    else r

end Reading

/-- The blocks of a document and the definitions in it. -/
structure Document where
  blocks : List Block
  definitions : Definitions

def Document.ofSource (options : Options) (s : Source) : Document :=
  let r := Reading.run (s.size + 1) 0 { source := s, options }
  let r := Reading.closeTo 0 r.frames.length r
  ⟨r.blocks.reverse, r.definitions⟩

end Parley.Markdown

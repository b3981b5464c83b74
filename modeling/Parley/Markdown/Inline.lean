import Parley.Markdown.Block

/-!
# Inline content

Two steps turn the tokens of a leaf into inline content. `Leaf.pieces` goes over them once and finds code, tags,
automatic links, links and images; brackets that are still open are kept in a stack, and the content of a link is
finished when its last bracket is read. `Emphasis.resolve` then pairs the runs of `*`, `_` and `~` that are left.
-/

namespace Parley.Markdown

inductive Inline
  | text (content : List Char)
  | softBreak
  | hardBreak
  | code (content : List Char)
  | html (content : String)
  | task (checked : Bool)
  | emphasis (children : List Inline)
  | strong (children : List Inline)
  | strikethrough (children : List Inline)
  | link (mail : Bool) (target : Target) (children : List Inline)
  | image (target : Target) (children : List Inline)

/-- Inline content in which emphasis is not resolved. -/
inductive Piece
  | done (content : Inline)
  | hardBreak (byBackslash : Bool)
  /-- A run of marks, and whether it may open or close emphasis. -/
  | marks (mark : Char) (count : Nat) (canOpen canClose : Bool)

/-! ## Emphasis -/

namespace Emphasis

/-- A run that may open emphasis, and what follows it, the latest first. -/
structure Opener where
  mark : Char
  /-- How many of its marks are left. -/
  count : Nat
  /-- How many it had. -/
  length : Nat
  /-- It may close as well. -/
  both : Bool
  content : List Inline

/-- Openers, the latest first, before them finished content, the latest first; and how many of the oldest openers no
tilde can reach any more. -/
structure State where
  content : List Inline := []
  openers : List Opener := []
  unreachable : Nat := 0

def marksText (mark : Char) (count : Nat) : Inline := .text (List.replicate count mark)

def State.add (st : State) (items : List Inline) : State :=
  match st.openers with
  | [] => { st with content := items ++ st.content }
  | o :: os => { st with openers := { o with content := items ++ o.content } :: os }

/-- The content in `count` marks, pairs inside. -/
def wrap (mark : Char) : Nat → List Inline → List Inline
  | 0, content => content
  | 1, content => [if mark = '~' then .strikethrough content else .emphasis content]
  | n + 2, content => wrap mark n [if mark = '~' then .strikethrough content else .strong content]

/-- The opener may be closed by a run of `length` marks, which may open as well if `both`. When one of the two could
do either, their lengths must not add up to a multiple of three, unless both are such multiples. Tildes pair only with
as many. -/
def Opener.pairs (o : Opener) (mark : Char) (length : Nat) (both : Bool) : Bool :=
  o.mark == mark && (mark != '~' || length == o.length) &&
    ((!both && !o.both) || (length + o.length) % 3 != 0 || length % 3 == 0)

/-- The marks of an opener that nothing closed are text. -/
def Opener.flatten (o : Opener) : List Inline := o.content ++ [marksText o.mark o.count]

/-- The first `n` openers become text in front of what follows them. -/
def State.drop (st : State) : Nat → State
  | 0 => st
  | n + 1 =>
    match st.openers with
    | [] => st
    | o :: os => { st with openers := os }.add o.flatten |>.drop n

/-- Closes with a run of `count` marks as many openers as it can; answers how many marks are left. -/
def close (mark : Char) (length : Nat) (both : Bool) : Nat → Nat → State → Nat × State
  | 0, count, st => (count, st)
  | fuel + 1, count, st =>
    if count = 0 then (0, st)
    else
      let reach := if mark = '~' then st.openers.length - st.unreachable else st.openers.length
      match (st.openers.take reach).findIdx? (·.pairs mark length both) with
      | none => (count, if mark = '~' then { st with unreachable := st.openers.length } else st)
      | some k =>
        let st := st.drop k
        match st.openers with
        | [] => (count, st)
        | o :: os =>
          let used := min count o.count
          let wrapped := wrap mark used o.content.reverse
          let st := { st with openers := os, unreachable := min st.unreachable os.length }
          let st :=
            if used < o.count then
              { st with openers := { o with count := o.count - used, content := wrapped.reverse } :: os }
            else st.add wrapped.reverse
          close mark length both fuel (count - used) st

/-- Takes one piece more. A hard break at the very end breaks nothing, if marks came before it. -/
def step (last seen : Bool) (st : State) : Piece → State
  | .done i => st.add [i]
  | .hardBreak byBackslash =>
    if last && seen then st.add [if byBackslash then .text ['\\'] else .softBreak] else st.add [.hardBreak]
  | .marks mark length canOpen canClose =>
    let both := canOpen && canClose
    let (count, st) := if canClose then close mark length both (length + 1) length st else (length, st)
    if count = 0 then st
    else if canOpen then { st with openers := ⟨mark, count, length, both, []⟩ :: st.openers }
    else st.add [marksText mark count]

def run (seen : Bool) (st : State) : List Piece → State
  | [] => st
  | p :: rest =>
    let seen := seen || (match p with | .marks .. => true | _ => false)
    run seen (step rest.isEmpty seen st p) rest

/-- The content with emphasis in the place of the runs of marks that pair. -/
def resolve (pieces : List Piece) : List Inline :=
  let st := run false {} pieces
  (st.drop st.openers.length).content.reverse

end Emphasis

/-! ## Links in brackets -/

namespace Link

/-- White space with at most one line end between the parts of a link. -/
def skipSpace (s : Source) (containers : List Container) (i : Nat) : Nat :=
  let i := s.skipWhile isGap i
  match s.lineEnd? i with
  | none => i
  | some next => s.skipWhile isGap (s.skipContainers containers next)

/-- The tokens from the index on; the first of them is cut to begin there. -/
def tokensFrom (i : Nat) (tokens : List Token) : List Token :=
  match tokens.dropWhile (·.stop ≤ i) with
  | [] => []
  | t :: rest => { t with start := max t.start i } :: rest

/-- The title from `i` on, up to its closing character, latest first; and the index after that. -/
def titleRest (s : Source) (inTable : Bool) (tokens : List Token) (opening close : Char) :
    Nat → List Char → Nat → Option (List Char × Nat)
  | 0, _, _ => none
  | fuel + 1, acc, i =>
    let go := titleRest s inTable tokens opening close fuel
    match s[i]? with
    | none => none
    | some c =>
      if c = close then some (acc, i + 1)
      else if c = opening then none
      else
        let resumed :=
          if isLineEnd c then
            match tokens.dropWhile (·.stop ≤ i + 1) with
            | t :: _ => if i < t.start then some t.start else none
            | [] => none
          else none
        match resumed with
        | some j => go ('\n' :: acc) j
        | none =>
          match if c = '&' then Entity.readAt s i else none with
          | some (value, j) => go (value.reverse ++ acc) j
          | none =>
            -- two backslashes before a bar stand for none in a table
            let i := if inTable && c == '\\' && s.isAt (i + 1) '\\' && s.isAt (i + 2) '|' then i + 2 else i
            let i := if s.isAt i '\\' && s.satisfies (i + 1) Text.isAsciiPunctuation then i + 1 else i
            match s[i]? with
            | none => none
            | some d => go (d :: acc) (i + 1)

def title? (s : Source) (inTable : Bool) (tokens : List Token) (i : Nat) : Option (String × Nat) :=
  let marks :=
    match s[i]? with
    | some '"' => some ('"', '"')
    | some '\'' => some ('\'', '\'')
    | some '(' => some ('(', ')')
    | _ => none
  match marks with
  | none => none
  | some (opening, close) =>
    (titleRest s inTable tokens opening close (s.size + 1) [] (i + 1)).map fun r => (String.ofList r.1.reverse, r.2)

/-- What follows the closing bracket of a link at `i`: destination and title in parentheses, and the index after
them. -/
def suffix? (s : Source) (leaf : Leaf) (tokens : List Token) (i : Nat) : Option (Target × Nat) :=
  if !s.isAt i '(' then none
  else
    match Destination.read s (skipSpace s leaf.containers (i + 1)) with
    | none => none
    | some (destination, j) =>
      let j := skipSpace s leaf.containers j
      let (title, j) :=
        match title? s leaf.inTable tokens j with
        | some (title, j) => (title, skipSpace s leaf.containers j)
        | none => ("", j)
      if s.isAt j ')' then some (⟨plainText leaf.inTable destination, title⟩, j + 1) else none

/-- The label whose opening bracket is at `i`, and the index after its closing bracket. -/
def label? (s : Source) (leaf : Leaf) (i : Nat) : Option (List Char × Nat) :=
  if s.isAt i '[' then Label.read s (fun j => some (s.skipContainers leaf.containers j)) leaf.inTable (i + 1)
  else none

end Link

/-! ## Automatic links -/

namespace Autolink

/-- The URI after the `<` before `i`, up to the `>`; the index after that. -/
def uri? (s : Source) (i : Nat) : Option Nat :=
  if s.satisfies i isLetter then
    let j := s.skipWhile (fun c => isAlphanumeric c || c == '.' || c == '-' || c == '+') (i + 1)
    let scheme := j - i
    if s.isAt j ':' && 2 ≤ scheme && scheme ≤ 32 then
      let k := s.skipWhile (fun c => 0x20 < c.toNat && c != '<' && c != '>') (j + 1)
      if s.isAt k '>' then some (k + 1) else none
    else none
  else none

/-- A character before the `@` of a mail address. -/
def isMailbox (c : Char) : Bool := isAlphanumeric c || ".!#$%&'*+/=?^_\x60\x7b|\x7d~-".toList.contains c

/-- The labels of a host name up to the `>`. -/
def host? (s : Source) : Nat → Nat → Option Nat
  | 0, _ => none
  | fuel + 1, i =>
    if s.isAt i '-' then none
    else
      let j := s.skipWhile (fun c => isAlphanumeric c || c == '-') i
      if j = i || 63 < j - i || s.isAt (j - 1) '-' then none
      else if s.isAt j '.' then host? s fuel (j + 1)
      else if s.isAt j '>' then some (j + 1)
      else none

/-- The mail address after the `<` before `i`, up to the `>`; the index after that. -/
def mail? (s : Source) (i : Nat) : Option Nat :=
  let j := s.skipWhile isMailbox i
  if i < j && s.isAt j '@' then host? s (s.size + 1) (j + 1) else none

end Autolink

/-! ## From tokens to pieces -/

/-- A bracket that is still open, with what follows it, the latest first. -/
structure Bracket where
  image : Bool
  /-- A link was found inside, so that this bracket opens none. -/
  spent : Bool
  start : Nat
  stop : Nat
  content : List Piece

/-- A link was found after the bracket: unless it is one for an image, it opens nothing any more. -/
def Bracket.spend (o : Bracket) : Bracket := { o with spent := o.spent || !o.image }

/-- Open brackets, the latest first, before them finished content, the latest first. -/
structure Brackets where
  content : List Piece := []
  opened : List Bracket := []

namespace Brackets

def add (b : Brackets) (items : List Piece) : Brackets :=
  match b.opened with
  | [] => { b with content := items ++ b.content }
  | o :: os => { b with opened := { o with content := items ++ o.content } :: os }

def addText (b : Brackets) (s : Source) (i j : Nat) : Brackets :=
  if i < j then b.add [.done (.text (s.extract i j).toList)] else b

/-- The bracket that was opened last is text. -/
def dissolve (s : Source) (b : Brackets) (o : Bracket) : Brackets :=
  (b.addText s o.start o.stop).add o.content

/-- The bracket that was opened last opens a link or an image. -/
def complete (b : Brackets) (o : Bracket) (target : Target) : Brackets :=
  let content := Emphasis.resolve o.content.reverse
  if o.image then b.add [.done (.image target content)]
  else
    { b with opened := b.opened.map Bracket.spend }.add [.done (.link false target content)]

/-- The `n` brackets that are open will not be closed any more: they are text. -/
def finish (s : Source) : Nat → Brackets → List Piece
  | 0, b => b.content.reverse
  | n + 1, b =>
    match b.opened with
    | [] => b.content.reverse
    | o :: os => finish s n ({ b with opened := os }.dissolve s o)

end Brackets

namespace Code

/-- The text of a code span from `i` up to `j`: each character of a line end becomes a blank, and the markers of
containers after it are left out. -/
def content (s : Source) (leaf : Leaf) : Nat → Nat → Nat → List Char
  | 0, _, _ => []
  | fuel + 1, j, i =>
    if j ≤ i then []
    else
      match s[i]? with
      | none => []
      | some c =>
        if isLineEnd c then ' ' :: content s leaf fuel j (s.skipContainers leaf.containers (i + 1))
        else if leaf.inTable && c == '\\' && i + 1 < j && s.isAt (i + 1) '|' then '|' :: content s leaf fuel j (i + 2)
        else c :: content s leaf fuel j (i + 1)

/-- Drops one blank at either end, if there is one at both and something else between. -/
def trim (cs : List Char) : List Char :=
  if cs.head? = some ' ' && cs.getLast? = some ' ' && !cs.all (· == ' ') then cs.tail.dropLast else cs

/-- The code span between two runs of backticks. -/
def span (s : Source) (leaf : Leaf) (i j : Nat) : Inline :=
  .code (trim (content (s.extract 0 j) leaf (j - i + 1) j i))

end Code

/-- What a closing bracket may refer to. -/
inductive Referral
  /-- A label in brackets that follows it; with the tokens after that. -/
  | label (label : List Char) (stop : Nat)
  /-- Empty brackets that follow it: the text is the label. -/
  | collapsed
  /-- Nothing: the text is the label. -/
  | shortcut

def referral (s : Source) (leaf : Leaf) (rest : List Token) : Referral :=
  match rest with
  | [] => .shortcut
  | t :: _ =>
    if s.hasAt t.start ['[', ']'] then .collapsed
    else
      match Link.label? s leaf t.start with
      | some (label, stop) => .label label stop
      | none => .shortcut

/-- The closing bracket of a label that was tried may not be tried as the end of its own label. -/
def markTried (stop : Nat) : List Token → List Token
  | [] => []
  | t :: rest => if t.stop < stop then t :: markTried stop rest else { t with kind := .closing false } :: rest

/-- Reads a closing bracket for the opening bracket `o`. Answers with the content and the tokens that are left. -/
def closeBracket (s : Source) (defs : Definitions) (leaf : Leaf) (b : Brackets) (o : Bracket) (canRefer : Bool)
    (t : Token) (rest : List Token) : Brackets × List Token :=
  let asText (rest : List Token) : Brackets × List Token := ((b.dissolve s o).addText s t.start t.stop, rest)
  if o.spent then asText rest
  else
    match Link.suffix? s leaf rest t.stop with
    | some (target, next) => (b.complete o target, Link.tokensFrom next rest)
    | none =>
      let ownLabel :=
        match Link.label? s leaf (o.stop - 1) with
        | some (label, stop) => if stop = t.stop then some label else none
        | none => none
      let refer (label : Option (List Char)) (found failed : List Token) : Brackets × List Token :=
        match label.bind fun l => defs.lookup l with
        | some target => (b.complete o target, found)
        | none => asText failed
      match referral s leaf rest with
      | .label label stop =>
        match rest.dropWhile (·.stop ≤ stop - 1) with
        | [] => asText rest
        | _ :: after => refer (some label) after (markTried stop rest)
      | .collapsed => if canRefer then refer ownLabel (rest.drop 2) rest else asText rest
      | .shortcut => if canRefer then refer ownLabel rest rest else asText rest

/-- Reads a `<`: an automatic link, a tag, or text. -/
def readLess (s : Source) (leaf : Leaf) (t : Token) (rest : List Token) : Option (Inline × Nat) :=
  match rest with
  | [] => none
  | next :: _ =>
    let i := next.start
    let link (mail : Bool) (stop : Nat) : Inline × Nat :=
      let uri := s.slice i (stop - 1)
      (.link mail ⟨uri, ""⟩ [.text (s.extract (t.start + 1) (stop - 1)).toList], stop)
    match Autolink.uri? s i with
    | some stop => some (link false stop)
    | none =>
      match Autolink.mail? s i with
      | some stop => some (link true stop)
      | none =>
        let raw (stop : Option Nat) : Option (Inline × Nat) := stop.map fun stop => (.html (s.slice t.start stop), stop)
        if s.isAt i '!' then raw (Tag.comment? s (i + 1))
        else if s.isAt i '?' then raw (Tag.instruction? s (i + 1))
        else
          (Tag.read s (some (s.skipContainers leaf.containers)) (i - 1)).map fun tag =>
            (.html (Tag.text s t.start tag), tag.pos)

/-- The tokens after the first run of exactly `count` backticks, and that run. -/
def closingBackticks (count : Nat) : List Token → Option (Token × List Token)
  | [] => none
  | t :: rest =>
    match t.kind with
    | .backticks n _ => if n = count then some (t, rest) else closingBackticks count rest
    | _ => closingBackticks count rest

namespace Leaf

def scan (s : Source) (defs : Definitions) (leaf : Leaf) : Nat → Brackets → List Token → List Piece
  | 0, b, _ => b.finish s b.opened.length
  | _, b, [] => b.finish s b.opened.length
  | fuel + 1, b, t :: rest =>
    let go := scan s defs leaf fuel
    match t.kind with
    | .text => go (b.addText s t.start t.stop) rest
    | .literal value => go (b.add [.done (.text value)]) rest
    | .softBreak => go (b.add [.done .softBreak]) rest
    | .hardBreak byBackslash => go (b.add [.hardBreak byBackslash]) rest
    | .task checked => go (b.add [.done (.task checked)]) rest
    | .emphasis mark opens closes => go (b.add [.marks mark (t.stop - t.start) opens closes]) rest
    | .backticks count escaped =>
      let wanted := if escaped then count - 1 else count
      match if wanted = 0 then none else closingBackticks wanted rest with
      | none => go (b.addText s t.start t.stop) rest
      | some (closing, rest) =>
        let b := if escaped then b.addText s t.start (t.start + 1) else b
        go (b.add [.done (Code.span s leaf t.stop closing.start)]) rest
    | .less =>
      match readLess s leaf t rest with
      | none => go (b.addText s t.start t.stop) rest
      | some (i, stop) => go (b.add [.done i]) (Link.tokensFrom stop rest)
    | .bracket => go { b with opened := ⟨false, false, t.start, t.stop, []⟩ :: b.opened } rest
    | .imageBracket => go { b with opened := ⟨true, false, t.start, t.stop, []⟩ :: b.opened } rest
    | .closing canRefer =>
      match b.opened with
      | [] => go (b.addText s t.start t.stop) rest
      | o :: os =>
        let (b, rest) := closeBracket s defs leaf { b with opened := os } o canRefer t rest
        go b rest

def inlines (s : Source) (defs : Definitions) (leaf : Leaf) : List Inline :=
  let s := s.extract 0 leaf.stop
  Emphasis.resolve (leaf.scan s defs (leaf.tokens.length + 1) {} leaf.tokens)

end Leaf

end Parley.Markdown

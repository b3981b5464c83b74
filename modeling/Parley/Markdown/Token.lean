import Parley.Markdown.Entity
import Parley.Markdown.Options
import Parley.Markdown.Table
import Parley.Text.Blank

/-!
# The pieces of a line of text

`Line.read` cuts a line into plain text and the characters that may mean something: delimiters of emphasis, code and
links, the start of a tag, references, escapes. What they do mean is found out later, when all definitions are known.
Every token has its place in the document.
-/

namespace Parley.Markdown

namespace Token

inductive Kind
  | text
  /-- A character reference, by what it stands for. -/
  | literal (value : List Char)
  | softBreak
  | hardBreak (byBackslash : Bool)
  /-- A run of `*`, `_` or `~`, and whether it may open or close emphasis. -/
  | emphasis (mark : Char) (canOpen canClose : Bool)
  /-- A run of backticks, the first of them perhaps escaped. -/
  | backticks (count : Nat) (escaped : Bool)
  | less
  | bracket
  | imageBracket
  /-- A closing bracket; `canRefer` tells whether the text before it may be the label of a definition. -/
  | closing (canRefer : Bool)
  | task (checked : Bool)
  deriving DecidableEq, Repr

end Token

/-- A piece of the text from `start` up to `stop`. -/
structure Token where
  kind : Token.Kind
  start : Nat
  stop : Nat
  deriving DecidableEq, Repr

/-- How a line is read. -/
inductive Mode
  /-- As text. -/
  | text
  /-- As text that may turn out to be the head of a table. -/
  | head
  /-- As a cell of a table, which ends at a bar. -/
  | cell
  deriving DecidableEq, Repr

namespace Flank

/-- The place `i` is just after a bar that ends a cell. -/
def afterBar (s : Source) (i : Nat) : Bool := s.isAt (i - 1) '|' && !(2 ≤ i && s.isAt (i - 2) '\\')

/-- The run of `count` marks at `i`, in text that begins at `start`, may open emphasis. -/
def canOpen (s : Source) (mode : Mode) (mark : Char) (start i count : Nat) : Bool :=
  match s[i + count]? with
  | none => false
  | some next =>
    if Text.isBlank next then false
    else if i = start then true
    else if mode = .cell && afterBar s i then true
    else if mode = .cell && next == '|' then false
    else if mark == '*' && !Text.isPunctuation next then true
    else if mark == '~' && 1 < count then true
    else
      match s[i - 1]? with
      | none => true
      | some before =>
        (mark == '~' && before == '~' && !Text.isPunctuation next) || Text.isBlank before ||
          Text.isPunctuation before

/-- The run of `count` marks at `i`, in text that begins at `start`, may close emphasis. -/
def canClose (s : Source) (mode : Mode) (mark : Char) (start i count : Nat) : Bool :=
  if i = start then false
  else
    match s[i - 1]? with
    | none => false
    | some before =>
      if Text.isBlank before then false
      else
        match s[i + count]? with
        | none => true
        | some next =>
          if mode = .cell && afterBar s i then false
          else if mode = .cell && next == '|' then true
          else if (mark == '*' || (mark == '~' && 1 < count)) && !Text.isPunctuation before then true
          else (mark == '~' && before == '~') || Text.isBlank next || Text.isPunctuation next

end Flank

inductive Break
  | nothing
  | soft
  | hard (byBackslash : Bool)
  /-- The line is the head of a table with these alignments. -/
  | table (alignments : List Alignment)
  deriving DecidableEq, Repr

/-- A line that was read: its tokens, the index after it, and how it ends; `stop` is where its text ends. -/
structure Line where
  tokens : List Token
  next : Nat
  ending : Break
  stop : Nat

namespace Line

/-- Where and how a line is read. -/
structure Setting where
  source : Source
  options : Options
  containers : List Container
  mode : Mode

/-- What is known up to some character of the line. -/
structure State where
  /-- The tokens so far, the latest first. -/
  tokens : List Token := []
  /-- Where the text begins that no token has yet. -/
  pending : Nat
  bars : Nat := 0
  lastBar : Nat := 0

/-- Adds text, to the latest token if that is text which ends there. -/
def addText (tokens : List Token) (start stop : Nat) : List Token :=
  if stop ≤ start then tokens
  else
    match tokens with
    | ⟨.text, a, b⟩ :: rest => if b = start then ⟨.text, a, stop⟩ :: rest else ⟨.text, start, stop⟩ :: tokens
    | _ => ⟨.text, start, stop⟩ :: tokens

def State.add (st : State) (kind : Token.Kind) (start stop : Nat) : State :=
  { st with tokens := ⟨kind, start, stop⟩ :: addText st.tokens st.pending start, pending := stop }

/-- The line ends at `i` without a break. -/
def State.finish (s : Source) (st : State) (i : Nat) : Line :=
  let stop := i - s.countBefore isGap st.pending i
  ⟨(addText st.tokens st.pending stop).reverse, i, .nothing, stop⟩

def State.atLineEnd (cx : Setting) (start : Nat) (st : State) (i : Nat) : Line :=
  let s := cx.source
  let next := (s.lineEnd? i).getD i
  let table :=
    if cx.mode = .head && 0 < st.bars then Table.head? s cx.containers start st.bars st.lastBar next else none
  match table with
  | some (alignments, after) => ⟨[], after, .table alignments, i⟩
  | none =>
    let backslashes := s.countBefore (· == '\\') 0 i
    let gaps := s.countBefore isGap 0 i
    let (ending, stop) :=
      if backslashes % 2 = 1 && next < s.size then (Break.hard true, i - 1)
      else if 2 ≤ gaps then (.hard false, i - gaps)
      else (.soft, i - gaps)
    ⟨(addText st.tokens st.pending stop).reverse, next, ending, stop⟩

/-- Goes over the characters from `i` on. -/
def scan (cx : Setting) (start : Nat) : Nat → State → Nat → Line
  | 0, st, i => st.finish cx.source i
  | fuel + 1, st, i =>
    let s := cx.source
    let go := scan cx start fuel
    match s[i]? with
    | none => st.finish s i
    | some c =>
      if isLineEnd c then
        if cx.mode = .cell then st.finish s i else st.atLineEnd cx start i
      else if c = '\\' then
        match s[i + 1]? with
        | none => go st (i + 1)
        | some d =>
          if !Text.isAsciiPunctuation d then go st (i + 1)
          else
            let st := { st with tokens := addText st.tokens st.pending i, pending := i + 1 }
            if d = '\x60' then
              let count := s.runLength '\x60' (i + 1)
              go (st.add (.backticks count true) (i + 1) (i + 1 + count)) (i + 1 + count)
            else if d = '\\' && cx.mode = .cell && s.isAt (i + 2) '|' then go { st with pending := i + 2 } (i + 3)
            else go st (i + 2)
      else if c = '*' || c = '_' || (c = '~' && cx.options.strikethrough) then
        let count := s.runLength c i
        let opens := Flank.canOpen s cx.mode c start i count
        let closes := Flank.canClose s cx.mode c start i count
        if (opens || closes) && (c ≠ '~' || count ≤ 2) then
          go (st.add (.emphasis c opens closes) i (i + count)) (i + count)
        else go st (i + count)
      else if c = '\x60' then
        let count := s.runLength c i
        go (st.add (.backticks count false) i (i + count)) (i + count)
      else if c = '<' then
        if s.isAt (i + 1) '\\' then go st (i + 1) else go (st.add .less i (i + 1)) (i + 1)
      else if c = '!' && s.isAt (i + 1) '[' then go (st.add .imageBracket i (i + 2)) (i + 2)
      else if c = '[' then go (st.add .bracket i (i + 1)) (i + 1)
      else if c = ']' then go (st.add (.closing true) i (i + 1)) (i + 1)
      else if c = '&' then
        match Entity.readAt s i with
        | some (value, stop) => go (st.add (.literal value) i stop) stop
        | none => go st (i + 1)
      else if c = '|' && cx.options.tables then
        if 0 < i && s.isAt (i - 1) '\\' then go st (i + 1)
        else if cx.mode = .cell then st.finish s i
        else go { st with bars := st.bars + 1, lastBar := i } (i + 1)
      else go st (i + 1)

def read (cx : Setting) (i : Nat) : Line := scan cx i (cx.source.size + 1) { pending := i, lastBar := i } i

end Line

end Parley.Markdown

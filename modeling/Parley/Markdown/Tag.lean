import Parley.Markdown.Source

/-!
# HTML in Markdown

* `Tag.read` : an opening or closing tag, which may go over several lines where that is allowed;
* `Tag.comment?`, `Tag.instruction?` : comments, declarations, CDATA sections and processing instructions in a line;
* `HtmlBlock.terminator?`, `HtmlBlock.startsBlock`, `HtmlBlock.isLoneTag` : the three ways in which a line opens a
  block of HTML.
-/

namespace Parley.Markdown

/-- A place in a tag, and the pieces of text before it that belong to containers and not to the tag, newest first. -/
structure Tag where
  pos : Nat
  cut : List (Nat × Nat)

namespace Tag

/-- Where the text goes on after a line end, given the index after it; nothing when a tag has to end in its line. -/
abbrev Wrap := Option (Nat → Nat)

def move (t : Tag) (pos : Nat) : Tag := { t with pos }

/-- Goes over a line end that ends before `next`. -/
def wrapAt (wrap : Wrap) (t : Tag) (next : Nat) : Option Tag :=
  wrap.map fun f =>
    let resumed := f next
    if next < resumed then ⟨resumed, (next, resumed) :: t.cut⟩ else t.move next

/-- Goes over white space and line ends. -/
def skipSpace (s : Source) (wrap : Wrap) : Nat → Tag → Option Tag
  | 0, t => some t
  | fuel + 1, t =>
    if t.pos < s.size && s.satisfies t.pos isSpace then
      if s.satisfies t.pos isLineEnd then
        match s.lineEnd? t.pos with
        | some next => (wrapAt wrap t next).bind (skipSpace s wrap fuel)
        | none => none
      else skipSpace s wrap fuel (t.move (t.pos + 1))
    else some t

def skipQuoted (s : Source) (wrap : Wrap) (quote : Char) : Nat → Tag → Option Tag
  | 0, _ => none
  | fuel + 1, t =>
    match s[t.pos]? with
    | none => none
    | some c =>
      if c = quote then some (t.move (t.pos + 1))
      else if isLineEnd c then
        match s.lineEnd? t.pos with
        | some next => (wrapAt wrap t next).bind (skipQuoted s wrap quote fuel)
        | none => none
      else skipQuoted s wrap quote fuel (t.move (t.pos + 1))

def isBareValue (c : Char) : Bool :=
  !(c == ' ' || isLineEnd c || c == '"' || c == '\'' || c == '=' || c == '>' || c == '<' || c == '\x60')

def skipValue (s : Source) (wrap : Wrap) (t : Tag) : Option Tag :=
  match s[t.pos]? with
  | none => none
  | some c =>
    if c = '"' || c = '\'' then skipQuoted s wrap c (s.size + 1) (t.move (t.pos + 1))
    else if c = ' ' || c = '=' || c = '>' || c = '<' || c = '\x60' || isLineEnd c then none
    else some (t.move (s.skipWhile isBareValue t.pos))

def isNameStart (c : Char) : Bool := isLetter c || c == '_' || c == ':'

def isNamePart (c : Char) : Bool := isAlphanumeric c || c == '_' || c == '.' || c == ':' || c == '-'

def skipAttribute (s : Source) (wrap : Wrap) (t : Tag) : Option Tag :=
  if s.satisfies t.pos isNameStart then
    let named := t.move (s.skipWhile isNamePart (t.pos + 1))
    match skipSpace s wrap (s.size + 1) named with
    | none => none
    | some t =>
      if s.isAt t.pos '=' then
        (skipSpace s wrap (s.size + 1) (t.move (t.pos + 1))).bind (skipValue s wrap)
      else some named
  else none

/-- White space before an attribute or the end of the tag; the text must not end in it. -/
def skipBetween (s : Source) (wrap : Wrap) : Nat → Tag → Option Tag
  | 0, _ => none
  | fuel + 1, t =>
    let t := t.move (s.skipWhile isGap t.pos)
    match s.lineEnd? t.pos with
    | none => some t
    | some next => if next = t.pos then none else (wrapAt wrap t next).bind (skipBetween s wrap fuel)

def skipAttributes (s : Source) (wrap : Wrap) : Nat → Tag → Option Tag
  | 0, _ => none
  | fuel + 1, t =>
    match skipBetween s wrap (s.size + 1) t with
    | none => none
    | some t' =>
      if s.isAt t'.pos '/' || s.isAt t'.pos '>' then some t'
      else if t'.pos = t.pos then none
      else (skipAttribute s wrap t').bind (skipAttributes s wrap fuel)

/-- The tag whose `<` is at `i`: the place after it. -/
def read (s : Source) (wrap : Wrap) (i : Nat) : Option Tag :=
  let closing := s.isAt (i + 1) '/'
  let start := if closing then i + 2 else i + 1
  if s.satisfies start isLetter then
    let named : Tag := ⟨s.skipWhile (fun c => isAlphanumeric c || c == '-') start, []⟩
    match if closing then some named else skipAttributes s wrap (s.size + 1) named with
    | none => none
    | some t =>
      let stop := s.skipWhile isGap t.pos
      let stop := if !closing && s.isAt stop '/' then stop + 1 else stop
      if s.isAt stop '>' then some (t.move (stop + 1)) else none
  else none

/-- The text from `i` on without the pieces that were cut out. -/
def text (s : Source) (i : Nat) (t : Tag) : String :=
  let (i, out) := t.cut.reverse.foldl (fun (i, out) (a, b) => (b, out ++ s.slice i a)) (i, "")
  out ++ s.slice i t.pos

/-- What follows `<!` at `i`: a comment, a CDATA section or a declaration. The index after it. -/
def comment? (s : Source) (i : Nat) : Option Nat :=
  if s.hasAt i "--".toList then
    -- the two hyphens of the opening may belong to the closing as well
    (s.find? "-->".toList i).map (· + 3)
  else if s.hasAt i "[CDATA[".toList then
    let j := s.skipWhile (· != ']') (i + 7)
    let k := s.skipWhile (· == ']') j
    if j < k && s.isAt k '>' then some (k + 1) else none
  else if s.satisfies i isLetter then
    let j := s.skipWhile (· != '>') i
    if j < s.size then some (j + 1) else none
  else none

/-- What follows `<?` at `i`. The index after it. -/
def instruction? (s : Source) (i : Nat) : Option Nat :=
  (s.find? "?>".toList i).map (· + 2)

end Tag

namespace HtmlBlock

/-- Elements whose content is no Markdown up to their closing tag. -/
def rawElements : List (String × String) :=
  [("pre", "</pre>"), ("style", "</style>"), ("script", "</script>"), ("textarea", "</textarea>")]

/-- Other openings with what ends their block. -/
def sections : List (String × String) := [("!--", "-->"), ("?", "?>"), ("![CDATA[", "]]>")]

/-- What ends the block that is opened by the text at `i`, just after a `<`; nothing for other text. -/
def terminator? (s : Source) (i : Nat) : Option (List Char) :=
  let raw := rawElements.find? fun e =>
    let j := i + e.1.length
    s.hasAtAnyCase i e.1.toList && (s.size ≤ j || s.satisfies j isSpace || s.isAt j '>')
  match raw with
  | some e => some e.2.toList
  | none =>
    match sections.find? fun e => s.hasAt i e.1.toList with
    | some e => some e.2.toList
    | none => if s.isAt i '!' && s.satisfies (i + 1) isLetter then some ['>'] else none

def blockElements : List String :=
  ["address", "article", "aside", "base", "basefont", "blockquote", "body", "caption", "center", "col", "colgroup",
   "dd", "details", "dialog", "dir", "div", "dl", "dt", "fieldset", "figcaption", "figure", "footer", "form", "frame",
   "frameset", "h1", "h2", "h3", "h4", "h5", "h6", "head", "header", "hr", "html", "iframe", "legend", "li", "link",
   "main", "menu", "menuitem", "nav", "noframes", "ol", "optgroup", "option", "p", "param", "search", "section",
   "summary", "table", "tbody", "td", "tfoot", "th", "thead", "title", "tr", "track", "ul"]

/-- The text at `i`, just after a `<`, is the start of a tag of one of these elements. -/
def startsBlock (s : Source) (i : Nat) : Bool :=
  let i := if s.isAt i '/' then i + 1 else i
  let j := s.skipWhile isAlphanumeric i
  let name := String.ofList ((s.extract i j).toList.map lower)
  blockElements.contains name &&
    (s.size ≤ j || s.satisfies j (fun c => c == ' ' || c == '\t' || isLineEnd c || c == '>') ||
      (s.isAt j '/' && s.isAt (j + 1) '>'))

/-- The `<` at `i` opens a tag after which the line is blank. -/
def isLoneTag (s : Source) (i : Nat) : Bool :=
  match Tag.read s none i with
  | some t => s.isBlankLine t.pos
  | none => false

end HtmlBlock

end Parley.Markdown

import Parley.Markdown.Inline
import Parley.Text.Hex

/-!
# HTML for a document

`Html.document` writes the blocks one after another. Every block begins on a line of its own, which the output keeps
track of.
-/

namespace Parley.Markdown.Html

/-- What is written so far, and whether it ends a line. -/
structure Output where
  text : String := ""
  fresh : Bool := true

namespace Output

def write (o : Output) (s : String) : Output :=
  if s = "" then o else ⟨o.text ++ s, s.toList.getLast? == some '\n'⟩

/-- Writes markup on a line of its own. -/
def writeBlock (o : Output) (s : String) : Output :=
  if o.fresh then o.write s else o.write ("\n" ++ s)

end Output

def escapeText (c : Char) : List Char :=
  if c = '&' then "&amp;".toList
  else if c = '<' then "&lt;".toList
  else if c = '>' then "&gt;".toList
  else [c]

def escapeAttribute (c : Char) : List Char :=
  if c = '"' then "&quot;".toList else if c = '\'' then "&#39;".toList else escapeText c

/-- Characters that stand for themselves in the address of a link. -/
def isAddress (c : Char) : Bool := isAlphanumeric c || "!#$%()*+,-./:;=?@^_~".toList.contains c

/-- A character in the address of a link: `&` and the apostrophe are escaped for HTML, what has no place there is
given byte by byte in hexadecimal digits. -/
def escapeAddress (c : Char) : List Char :=
  if c = '&' then "&amp;".toList
  else if c = '\'' then "&#x27;".toList
  else if isAddress c then [c]
  else
    (String.singleton c).toUTF8.toList.flatMap fun b =>
      ['%', Text.Hex.upperDigit (b.toNat / 16), Text.Hex.upperDigit b.toNat]

def attributeText (s : String) : String := String.ofList (s.toList.flatMap escapeAttribute)

def addressText (s : String) : String := String.ofList (s.toList.flatMap escapeAddress)

namespace Output

/-- Writes text; empty text ends no line. -/
def writeText (o : Output) (escape : Char → List Char) (cs : List Char) : Output :=
  ⟨o.text ++ String.ofList (cs.flatMap escape), cs.getLast? == some '\n'⟩

end Output

def taskBox (checked : Bool) : String :=
  if checked then "<input disabled=\"\" type=\"checkbox\" checked=\"\"/>\n"
  else "<input disabled=\"\" type=\"checkbox\"/>\n"

def titleAttribute (title : String) : String :=
  if title = "" then "" else "\" title=\"" ++ attributeText title

mutual

/-- Inline content as the text of an attribute: its markup is left out. -/
def plain (o : Output) : Inline → Output
  | .text cs | .code cs => o.writeText escapeAttribute cs
  | .html s => o.writeText escapeAttribute s.toList
  | .softBreak | .hardBreak => o.write " "
  | .task checked => o.write (if checked then "[x]" else "[ ]")
  | .emphasis cs | .strong cs | .strikethrough cs | .link _ _ cs | .image _ cs => plainAll o cs

/-- All of a list of inline content, as the text of an attribute. -/
def plainAll (o : Output) : List Inline → Output
  | [] => o
  | i :: rest => plainAll (plain o i) rest

end

mutual

def inline (o : Output) : Inline → Output
  | .text cs => o.writeText escapeText cs
  | .softBreak => o.write "\n"
  | .hardBreak => o.write "<br />\n"
  | .code cs => (o.write "<code>").writeText escapeText cs |>.write "</code>"
  | .html s => o.write s
  | .task checked => o.write (taskBox checked)
  | .emphasis cs => (inlines (o.write "<em>") cs).write "</em>"
  | .strong cs => (inlines (o.write "<strong>") cs).write "</strong>"
  | .strikethrough cs => (inlines (o.write "<del>") cs).write "</del>"
  | .link mail target cs =>
    let o := o.write ((if mail then "<a href=\"mailto:" else "<a href=\"") ++ addressText target.destination)
    (inlines (o.write (titleAttribute target.title ++ "\">")) cs).write "</a>"
  | .image target cs =>
    let o := plainAll (o.write ("<img src=\"" ++ addressText target.destination ++ "\" alt=\"")) cs
    o.write (titleAttribute target.title ++ "\" />")

def inlines (o : Output) : List Inline → Output
  | [] => o
  | i :: rest => inlines (inline o i) rest

end

/-- What the blocks of a document depend on. -/
structure Context where
  source : Source
  definitions : Definitions

def leaf (cx : Context) (o : Output) (l : Leaf) : Output :=
  inlines o (l.inlines cx.source cx.definitions)

def cellTag (name : String) : Alignment → String
  | .none => "<" ++ name ++ ">"
  | .left => "<" ++ name ++ " style=\"text-align: left\">"
  | .center => "<" ++ name ++ " style=\"text-align: center\">"
  | .right => "<" ++ name ++ " style=\"text-align: right\">"

def cells (cx : Context) (name : String) (o : Output) : List Alignment → List Leaf → Output
  | _, [] => o
  | alignments, l :: rest =>
    let o := o.write (cellTag name (alignments.head?.getD .none))
    cells cx name ((leaf cx o l).write ("</" ++ name ++ ">")) alignments.tail rest

/-- Writes the opening tag of code; the first word after the fence names the language. -/
def codeTag : Option String → String
  | none => "<pre><code>"
  | some info =>
    let language := String.ofList (info.toList.takeWhile (· != ' '))
    if language = "" then "<pre><code>" else "<pre><code class=\"language-" ++ attributeText language ++ "\">"

mutual

/-- Writes a block. A paragraph of a tight list has no tags of its own. -/
def block (cx : Context) (tight : Bool) (o : Output) : Block → Output
  | .paragraph l => if tight then leaf cx o l else (leaf cx (o.writeBlock "<p>") l).write "</p>\n"
  | .heading level l =>
    (leaf cx (o.writeBlock s!"<h{level}>") l).write s!"</h{level}>\n"
  | .rule => o.writeBlock "<hr />\n"
  | .code info text =>
    let o := (if o.fresh then o else o.write "\n").write (codeTag info)
    (if text = "" then o else o.writeText escapeText text.toList).write "</code></pre>\n"
  | .html text => o.write text
  | .table alignments head rows =>
    let o := (cells cx "th" (o.write "<table><thead><tr>") alignments head).write "</tr></thead><tbody>\n"
    (rows.foldl (fun o row => (cells cx "td" (o.write "<tr>") alignments row).write "</tr>\n") o).write
      "</tbody></table>\n"
  | .quote children => (blocks cx false (o.writeBlock "<blockquote>\n") children).write "</blockquote>\n"
  | .list tight start items =>
    match start with
    | none => (listItems cx tight (o.writeBlock "<ul>\n") items).write "</ul>\n"
    | some n =>
      let o := o.writeBlock (if n = 1 then "<ol>\n" else s!"<ol start=\"{n}\">\n")
      (listItems cx tight o items).write "</ol>\n"
  | .task checked => o.write (taskBox checked)

def blocks (cx : Context) (tight : Bool) (o : Output) : List Block → Output
  | [] => o
  | b :: rest => blocks cx tight (block cx tight o b) rest

def listItems (cx : Context) (tight : Bool) (o : Output) : List (List Block) → Output
  | [] => o
  | item :: rest => listItems cx tight ((blocks cx tight (o.writeBlock "<li>") item).write "</li>\n") rest

end

def document (cx : Context) (bs : List Block) : String := (blocks cx false {} bs).text

end Parley.Markdown.Html

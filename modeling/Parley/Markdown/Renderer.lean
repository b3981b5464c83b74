import Parley.Markdown.Html

/-!
# From the text of a reply to what is shown

A surface shows a reply as it is, as HTML made from its Markdown, or in a way of its own.
-/

namespace Parley.Markdown

def toHtml (options : Options) (markdown : String) : String :=
  let source := markdown.toList.toArray
  let d := Document.ofSource options source
  Html.document ⟨source, d.definitions⟩ d.blocks

/-- How replies are shown. -/
inductive Renderer
  /-- As they are. -/
  | plain
  | html (options : Options)
  /-- In a way of the host's own. -/
  | custom (markup : String → String)

namespace Renderer

def standard : Renderer := .html .all

def render : Renderer → String → String
  | plain, text => text
  | html options, text => toHtml options text
  | custom markup, text => markup text

end Renderer

end Parley.Markdown

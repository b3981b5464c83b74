/-!
# Which extensions are in force
-/

namespace Parley.Markdown

structure Options where
  tables : Bool := false
  strikethrough : Bool := false
  taskLists : Bool := false
  deriving DecidableEq, Repr

def Options.all : Options := ⟨true, true, true⟩

end Parley.Markdown

import Parley.Decimal.Whole
import Parley.Transcript.View

/-!
# Elements of a page

* `Node` : a node made for a transcript entry (`Node.ofEntry`);
* `Element` : an element that was on the page before, with the nodes appended to it.
-/

namespace Parley.Page

inductive Content
  /-- Text, of which nothing is read as markup. -/
  | text (s : String)
  | html (s : String)
  deriving DecidableEq, Repr

structure Node where
  tag : String
  className : String
  content : Option Content
  deriving DecidableEq, Repr

namespace Node

def ofRole : Transcript.Role → Node
  | .user => ⟨"div", "message user-message", none⟩
  | .bot => ⟨"div", "message bot-message", none⟩
  | .spacer => ⟨"br", "", none⟩

/-- What a body puts into its node: text stays text, and only markup becomes HTML. -/
def contentOf : Transcript.Body → Option Content
  | .text s => some (.text s)
  | .markup s => some (.html s)
  | .empty => none

def ofEntry (e : Transcript.Entry) : Node := { ofRole e.role with content := contentOf e.body }

end Node

structure Element where
  tag : String
  id : String := ""
  /-- The names of its classes, with blanks between them. -/
  classes : String := ""
  value : String := ""
  scrollTop : Int32 := 0
  scrollHeight : Int32 := 0
  clientHeight : Int32 := 0
  children : List Node := []
  deriving DecidableEq, Repr

namespace Element

def isInput (e : Element) : Bool := e.tag == "input"

def metrics (e : Element) : Transcript.Metrics :=
  ⟨.ofInt e.scrollTop.toInt, .ofInt e.scrollHeight.toInt, .ofInt e.clientHeight.toInt⟩

def append (e : Element) (n : Node) : Element := { e with children := e.children ++ [n] }

end Element

end Parley.Page

import Parley.Controller.Operations
import Parley.Page.Basic
import Parley.Page.Options

/-!
# A widget on a page

A `Widget` is a chat bound to a text field, to a container for its transcript, and to a URL. The chat always finds the
page as it is (`Widget.chatOn`), and what it does is carried out on the page (`Page.carryOut`).
-/

namespace Parley.Page

structure Widget where
  chat : Controller
  /-- The number of its text field among the elements. -/
  field : Nat
  /-- The number of the element that holds its transcript. -/
  container : Nat
  url : String
  /-- It is not used any more; what it has started still ends. -/
  freed : Bool := false

def Widget.chatOn (w : Widget) (p : Page) : Controller :=
  { w.chat with
    input := ((p.elements[w.field]?).map Element.value).getD ""
    store := p.store
    transcript := { w.chat.transcript with view := { given := ((p.elements[w.container]?).map Element.metrics).getD {} } } }

def perform (p : Page) (w : Widget) : Controller.Effect → Page × List Effect
  | .view (.render e) => p.render w.container e
  | .view (.scrollTo offset) => p.scrollTo w.container offset
  | .notify message => (p, p.alert message)
  | .post _ r => p.send w.url r
  | .log e => (p, [.log e])

def performAll (p : Page) (w : Widget) : List Controller.Effect → Page × List Effect
  | [] => (p, [])
  | e :: es =>
    let (p, first) := p.perform w e
    let (p, rest) := performAll p w es
    (p, first ++ rest)

def carryOut (p : Page) (w : Widget) (chat : Controller) (effects : List Controller.Effect) : Page × List Effect :=
  let p := p.modify w.field fun e => { e with value := chat.input }
  { p with storage := chat.store.entries }.performAll w effects

namespace Options

/-- A number as a double holds it: what is whole and below `2 ^ 53` is an integer. -/
def viaDouble : Json.Number → Json.Number
  | .integer n => if n.natAbs < 0x20000000000000 then .integer n else .float (.ofInt n)
  | .float x =>
    match x.whole? with
    | some n => if n.natAbs < 0x20000000000000 then .integer n else .float x
    | none => .float x

/-- A value whose number, if it is one, went through a double. -/
def argument : Json.Value → Json.Value
  | .number n => .number (viaDouble n)
  | v => v

/-- The options that a script hands over: nothing stands for the defaults, and numbers are doubles. -/
def ofArgument : Option Json.Value → Except Error Options
  | none | some .null => .ok standard
  | some (.object ms) => wrap (ofValue (.object (ms.map fun m => (m.1, argument m.2))))
  | some v => wrap (ofValue (argument v))
where
  wrap (r : Except String Options) : Except Error Options := r.mapError (.options "parse-widget-options")

end Options

/-- The text field and the container that options name. -/
def bind (p : Page) (o : Options) : Except Error (Nat × Nat) :=
  if !p.window then .error (.noWindow "mount-widget")
  else if !p.document then .error (.noDocument "resolve-document")
  else
    match p.field o.inputId with
    | .error e => .error e
    | .ok field => (p.container o.transcriptId).map fun container => (field, container)

end Parley.Page

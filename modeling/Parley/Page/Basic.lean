import Parley.Controller.Basic
import Parley.Exchange.Script
import Parley.Http.Basic
import Parley.Page.Element
import Parley.Page.Error
import Parley.Page.Reply

/-!
# A page

A `Page` is what a widget finds around it: elements, the storage of the tab, the listeners that were attached, and
the replies to its requests.

* `Page.field`, `Page.container` : the elements that options name;
* `Page.store` : the storage as a session store;
* `Page.render`, `Page.scrollTo`, `Page.alert` : what a chat asks of its surface;
* `Page.send`, `Page.answer?` : requests and their answers.
-/

namespace Parley

namespace Page

/-- A key listener: the element it is attached to, and the number of the widget that it belongs to. -/
structure Listener where
  element : Nat
  widget : Nat
  deriving DecidableEq, Repr

/-- What happens on a page, as those can tell who watch it. -/
inductive Effect
  | made (node : Node)
  | appended (element : Nat) (node : Node)
  | scrolled (element : Nat) (top : Int32)
  | alerted (message : String)
  | requested (post : Http.Post)
  | log (event : Log.Event)
  | console (line : String)
  deriving DecidableEq

end Page

structure Page where
  elements : List Page.Element
  /-- What the document makes of a selector: one of the elements, or nothing, or it throws. How selectors are read is
  its own business. -/
  query : (es : List Page.Element) → String → Except Page.Thrown (Option (Fin es.length))
  storage : Session.Entries := []
  window : Bool := true
  document : Bool := true
  storageEnabled : Bool := true
  faults : Page.Faults := .none
  /-- The listeners in the order in which they were attached. -/
  listeners : List Page.Listener := []
  replies : Exchange.Script Page.Reply

namespace Page

def throws? (p : Page) (call : Call) : Option Thrown := p.faults 0 call

/-- The page after an attempt to create or append a node. -/
def later (p : Page) : Page := { p with faults := p.faults.later }

def modify (p : Page) (element : Nat) (f : Element → Element) : Page :=
  { p with elements := p.elements.modify element f }

/-! ## Finding elements -/

/-- The first element with an id; nothing has the empty id. -/
def elementById? (p : Page) (id : String) : Option Nat :=
  if id = "" then none else p.elements.findIdx? fun e => e.id == id

def queried (p : Page) (selector : String) : Except Thrown (Option Nat) :=
  match p.throws? .querySelector with
  | some v => .error v
  | none => (p.query p.elements selector).map (Option.map Fin.val)

theorem queried_ok_iff {p : Page} {s : String} {i : Nat} : p.queried s = .ok (some i) ↔
    p.throws? .querySelector = none ∧ ∃ j, p.query p.elements s = .ok (some j) ∧ j.val = i := by
  unfold queried
  cases p.throws? .querySelector with
  | some v => exact ⟨nofun, fun h => nomatch h.1⟩
  | none =>
    cases p.query p.elements s with
    | error v => exact ⟨nofun, fun ⟨_, _, h, _⟩ => nomatch h⟩
    | ok found => cases found <;> simp [Except.map]

def selector (id : String) : String := "#" ++ id

def field (p : Page) (id : String) : Except Error Nat :=
  match p.elementById? id with
  | none => .error (.missingElement "find-input" (selector id))
  | some i =>
    if (p.elements[i]?).any Element.isInput then .ok i else .error (.notAnInput "find-input" (selector id))

/-- The element with an id, or else what the selector of a class of that name finds. The id goes into the selector as it
is. -/
def container (p : Page) (id : String) : Except Error Nat :=
  match p.elementById? id with
  | some i => .ok i
  | none =>
    match p.queried ("." ++ id) with
    | .error v => .error (.dom "query-element" v.details)
    | .ok (some i) => .ok i
    | .ok none => .error (.missingElement "query-element" (selector id))

/-! ## Storage -/

def storageStage : Session.Call → String
  | .get => "read-session-storage"
  | .set => "write-session-storage"
  | .remove => "clear-session-storage"

def storageCall : Session.Call → Call
  | .get => .getItem
  | .set => .setItem
  | .remove => .removeItem

def storageComplaint (p : Page) (call : Session.Call) : Option String :=
  if !p.window then some "no window"
  else
    match p.throws? .sessionStorage with
    | some v => some v.details
    | none =>
      if !p.storageEnabled then some "sessionStorage is disabled"
      else (p.throws? (storageCall call)).map Thrown.details

def store (p : Page) : Session.Store :=
  ⟨p.storage, fun call => (p.storageComplaint call).map fun details => ⟨storageStage call, details⟩⟩

/-! ## The surface of a chat -/

def renderFailure (e : Transcript.Entry) (error : Error) : Log.Event :=
  ⟨.warn, "failed to render transcript entry", [("entry", toString e.id), ("error", error.message)]⟩

/-- Shows an entry at the end of an element. If the page refuses that, the element stays as it is. -/
def render (p : Page) (element : Nat) (e : Transcript.Entry) : Page × List Effect :=
  match p.throws? .createElement with
  | some v => (p.later, [.log (renderFailure e (.dom "create-entry" v.details))])
  | none =>
    let p := p.later
    let node := Node.ofEntry e
    match p.throws? .appendChild with
    | some v => (p.later, [.made node, .log (renderFailure e (.dom "append-entry" v.details))])
    | none => (p.later.modify element fun c => c.append node, [.made node, .appended element node])

/-- Scrolls an element to the whole number nearest to the offset. -/
def scrollTo (p : Page) (element : Nat) (offset : Binary64) : Page × List Effect :=
  let top := offset.toInt32
  (p.modify element fun e => { e with scrollTop := top }, [.scrolled element top])

/-- Shows a message, unless the page refuses that. -/
def alert (p : Page) (message : String) : List Effect :=
  match p.throws? .alert with
  | some v => [.log ⟨.warn, "alert could not be shown", [("details", v.details)]⟩]
  | none => [.alerted message]

/-! ## Requests -/

/-- The calls that build a request, each with its place in messages. -/
def requestCalls : List (Call × String) :=
  [(.newHeaders, "build-headers"), (.setHeader, "build-headers"), (.newRequest, "build-chat-request")]

/-- Why no request can be made now, if so: where, and what was said. -/
def obstacle (p : Page) : Option (String × String) :=
  if !p.window then some ("resolve-window", "no window")
  else requestCalls.findSome? fun (call, stage) => (p.throws? call).map fun v => (stage, v.details)

/-- What a request made now comes to at once; nothing while its answer is awaited. -/
def answer? (p : Page) (url : String) : Option Exchange.Arrival :=
  match p.obstacle with
  | some (stage, details) => some (.failure (.transport stage url details))
  | none => p.replies.next.map (Reply.arrival url)

def arrived? (p : Page) (n : Nat) (url : String) : Option Exchange.Arrival :=
  (p.replies.answer? n).map (Reply.arrival url)

def requestCount (p : Page) : Nat := p.replies.taken.length

def post (url : String) (r : Exchange.Request) : Http.Post where
  target := url
  body := r.body

/-- Makes a request, unless something is in the way. -/
def send (p : Page) (url : String) (r : Exchange.Request) : Page × List Effect :=
  if p.obstacle.isSome then (p, [])
  else ({ p with replies := p.replies.take }, [.requested (post url r)])

end Page

end Parley

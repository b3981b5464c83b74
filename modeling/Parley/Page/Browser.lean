import Parley.Page.Widget

/-!
# A page with widgets and what happens to it

A `Browser` is a page, the widgets on it, and the exchanges they have started: each exchange is a `Task` that only moves
when tasks are run (`Browser.run`). A `Move` is one thing that happens; `Browser.step` says what comes of it.

Widgets are numbered in the order in which they were mounted. They share the page: two widgets on one text field read
the same text, and all sessions with one key are the same session.
-/

namespace Parley

namespace Page

/-- An exchange that was handed to the browser: the widget, its number among the widget's exchanges, and the number of
its request when that was made. -/
structure Task where
  widget : Nat
  exchange : Nat
  request : Option Nat := none
  deriving DecidableEq, Repr

end Page

open Page (Effect Error Options Listener Task Widget)

structure Browser where
  page : Page
  widgets : List Widget := []
  /-- The exchanges that have not ended, the oldest first. -/
  tasks : List Task := []
  supply : Session.Supply

namespace Browser

/-- What an operation came to: its result, the browser afterwards, and what was seen on the way. -/
structure Outcome (α : Type) where
  result : α
  browser : Browser
  effects : List Effect := []

namespace Outcome

variable {α β : Type}

def after (before : List Effect) (o : Outcome α) : Outcome α := { o with effects := before ++ o.effects }

def map (f : α → β) (o : Outcome α) : Outcome β := { o with result := f o.result }

end Outcome

/-- A widget that was not freed. -/
def held? (b : Browser) (i : Nat) : Option Widget := (b.widgets[i]?).filter fun w => !w.freed

def advance (b : Browser) : Browser := { b with supply := b.supply.advance }

/-- Lets the chat of widget `i` do something on the page. -/
def act {α : Type} (b : Browser) (i : Nat) (w : Widget) (f : Controller → Controller.Step α) : Outcome α :=
  let s := f (w.chatOn b.page)
  let (page, effects) := b.page.carryOut w s.state s.effects
  ⟨s.result, { b with page, widgets := b.widgets.set i { w with chat := s.state } }, effects⟩

/-- The browser with one more task, if an exchange of widget `i` was started. -/
def dispatch (b : Browser) (i : Nat) : Option Nat → Browser
  | none => b
  | some exchange => { b with tasks := b.tasks ++ [⟨i, exchange, none⟩] }

/-! ## Mounting -/

/-- What is told when a widget is about to be mounted. -/
def mounting (url : String) (config : Config) : Log.Event :=
  ⟨.info, "mounting chat widget", [("endpoint", url), ("agent", config.agentName)]⟩

/-- Mounts a widget: its key listener is attached, and the end of its container is brought into view. If anything is in
the way nothing has changed. -/
def mount (b : Browser) (o : Options) : Outcome (Except Error Nat) :=
  match b.page.bind o with
  | .error e => ⟨.error e, b, []⟩
  | .ok (field, container) =>
    let config := o.config.normalized
    let w : Widget := ⟨Controller.start config .standard b.page.store {}, field, container, config.requestUrl, false⟩
    match b.page.throws? .addEventListener with
    | some v => ⟨.error (.dom "attach-key-listener" v.details), b, [.log (mounting w.url config)]⟩
    | none =>
      let i := b.widgets.length
      let page := { b.page with listeners := b.page.listeners ++ [⟨field, i⟩] }
      let b := { b with page, widgets := b.widgets ++ [w] }
      ((b.act i w Controller.load).map fun _ => .ok i).after [.log (mounting w.url config)]

/-- What is told when a listener could not be detached. -/
def detachFailure (details : String) : Log.Event := ⟨.warn, "failed to detach key listener", [("details", details)]⟩

/-- Frees widget `i`, whose key listener is detached; answers whether there is such a widget. -/
def free (b : Browser) (i : Nat) : Outcome Bool :=
  match b.held? i with
  | none => ⟨false, b, []⟩
  | some w =>
    let b := { b with widgets := b.widgets.set i { w with freed := true } }
    match b.page.throws? .removeEventListener with
    | some v => ⟨true, b, [.log (detachFailure v.details)]⟩
    | none =>
      let listeners := b.page.listeners.filter fun l => l.widget != i
      ⟨true, { b with page := { b.page with listeners } }, []⟩

/-! ## What a script does with a widget -/

def send (b : Browser) (i : Nat) : Option (Outcome Unit) :=
  (b.held? i).map fun w =>
    let o := b.act i w Controller.send
    ⟨(), o.browser.dispatch i o.result, o.effects⟩

/-- How many exchanges of a widget await their response. -/
def inFlight (b : Browser) (i : Nat) : Option Nat := (b.held? i).map fun w => w.chat.inFlight

def sessionId (b : Browser) (i : Nat) : Option (Outcome (Except Error SessionId)) :=
  (b.held? i).map fun w =>
    let o := b.act i w fun c => c.sessionId b.supply.fresh
    ⟨o.result.mapError (.session "read-session-id"), o.browser.advance, o.effects⟩

def resetSession (b : Browser) (i : Nat) : Option (Outcome (Except Error Unit)) :=
  (b.held? i).map fun w =>
    (b.act i w Controller.resetSession).map (Except.mapError (.session "reset-session-id"))

/-- The session id of the tab, under the standard key. -/
def tabSessionId (b : Browser) : Outcome (Except Error SessionId) :=
  let o := Session.Identity.establish Session.defaultKey b.supply.fresh b.page.store
  let page := { b.page with storage := o.store.entries }
  ⟨o.result.mapError (.session "get-session-id"), { b with page }.advance, o.log.map .log⟩

/-! ## Keys -/

def keyEvent : String := "keypress"

/-- Tells widgets of a key, one after another; answers whether one of them keeps the key from its default. -/
def tell (key : String) : List Nat → Browser → Outcome Bool
  | [], b => ⟨false, b, []⟩
  | i :: is, b =>
    match b.widgets[i]? with
    | none => tell key is b
    | some w =>
      let o := b.act i w fun c => c.key key
      ((tell key is (o.browser.dispatch i o.result.sent)).map fun rest => o.result.preventsDefault || rest).after
        o.effects

/-- A key event at an element, which the listeners attached there hear of; answers whether its default is prevented. -/
def key (b : Browser) (element : Nat) (key event : String) : Option (Outcome Bool) :=
  (b.page.elements[element]?).map fun _ =>
    if event = keyEvent then
      tell key ((b.page.listeners.filter fun l => l.element == element).map Listener.widget) b
    else ⟨false, b, []⟩

/-! ## Tasks -/

def delivered (id : Exchange.Id) : Log.Event := ⟨.debug, "exchange delivered", [Controller.exchangeField id]⟩

/-- Polls a task; what is left of it, if it has not ended. -/
def poll (b : Browser) (t : Task) : Outcome (Option Task) :=
  match b.widgets[t.widget]? with
  | none => ⟨none, b, []⟩
  | some w =>
    let answer? : Option Exchange.Arrival :=
      match t.request with
      | none => b.page.answer? w.url
      | some n => b.page.arrived? n w.url
    let o := b.act t.widget w fun c => c.poll b.supply.fresh (fun _ _ => answer?) t.exchange
    match o.result with
    | .waiting => ⟨some { t with request := some (t.request.getD b.page.requestCount) }, o.browser.advance, o.effects⟩
    | .delivered r => ⟨none, o.browser.advance, o.effects ++ [.log (delivered r.exchange)]⟩
    | .unknown | .gone | .failed _ => ⟨none, o.browser.advance, o.effects⟩

/-- Polls tasks, the oldest first; what is left of them. -/
def pollAll : List Task → Browser → Outcome (List Task)
  | [], b => ⟨[], b, []⟩
  | t :: ts, b =>
    let o := b.poll t
    ((pollAll ts o.browser).map fun rest => o.result.toList ++ rest).after o.effects

/-- Runs the tasks as far as they go; answers how many still wait. No answer arrives while tasks run, and no task starts
another, so each is polled once. -/
def run (b : Browser) : Outcome Nat :=
  let o := pollAll b.tasks b
  ⟨o.result.length, { o.browser with tasks := o.result }, o.effects⟩

/-- Makes one request without a widget and gives up if its answer is not there. -/
def post (b : Browser) (url : String) (r : Exchange.Request) : Outcome (Option (Except Exchange.Error Json.Value)) :=
  let (page, effects) := b.page.send url r
  match b.page.answer? url with
  | none => ⟨none, { b with page }, effects⟩
  | some a => ⟨some a.result, { b with page }, effects ++ a.log.map .log⟩

/-! ## Moves -/

/-- What the console shows when the module is loaded. -/
def greeting : List String :=
  ["panic hook set", "logger installed", "INFO chatline_web: chatline widget module initialized"]

/-- New sizes of an element; what is not given stays. -/
structure Sizes where
  scrollTop : Option Int32 := none
  scrollHeight : Option Int32 := none
  clientHeight : Option Int32 := none
  deriving DecidableEq, Repr

inductive Move
  | mount (o : Options)
  /-- A widget is mounted with the options that a script hands over. -/
  | mountWith (options : Option Json.Value)
  | free (widget : Nat)
  | send (widget : Nat)
  | inFlight (widget : Nat)
  | sessionId (widget : Nat)
  | resetSession (widget : Nat)
  | tabSessionId
  | freshId
  /-- The module is loaded. -/
  | load
  | post (url : String) (r : Exchange.Request)
  /-- Text is typed in the place of what was in an element. -/
  | type (element : Nat) (text : String)
  | key (element : Nat) (key event : String)
  | run
  /-- The answer of a request that is held back is there. -/
  | release (request : Nat) (reply : Page.Reply)
  /-- One more answer is prepared. -/
  | prepare (reply : Exchange.Prepared Page.Reply)
  /-- From now on a call throws something, or nothing. -/
  | fault (call : Page.Call) (v : Option Page.Thrown)
  | alter (window document storageEnabled : Bool)
  | resize (element : Nat) (sizes : Sizes)
  /-- Something else writes to the storage. -/
  | write (key value : String)

inductive Answer
  | done
  /-- No widget has this number, or it was freed. -/
  | noWidget
  | mounted (result : Except Error Nat)
  | count (n : Nat)
  /-- There was something to free, to release, or to type into. -/
  | found (b : Bool)
  | session (result : Except Error SessionId)
  | reset (result : Except Error Unit)
  | fresh (id : SessionId)
  /-- Whether the default of a key is prevented; nothing if there is no such element. -/
  | prevented (b : Option Bool)
  /-- How a request ended; nothing if its answer was not there. -/
  | response (result : Option (Except Exchange.Error Json.Value))

/-- The outcome of an operation on a widget that may be missing. -/
def ofWidget {α : Type} (b : Browser) (answer : α → Answer) : Option (Outcome α) → Outcome Answer
  | none => ⟨.noWidget, b, []⟩
  | some o => o.map answer

def step (b : Browser) : Move → Outcome Answer
  | .mount o => (b.mount o).map .mounted
  | .mountWith options =>
    match Options.ofArgument options with
    | .error e => ⟨.mounted (.error e), b, []⟩
    | .ok o => (b.mount o).map .mounted
  | .free i => (b.free i).map .found
  | .send i => b.ofWidget (fun _ => .done) (b.send i)
  | .inFlight i => ⟨((b.inFlight i).map .count).getD .noWidget, b, []⟩
  | .sessionId i => b.ofWidget .session (b.sessionId i)
  | .resetSession i => b.ofWidget .reset (b.resetSession i)
  | .tabSessionId => b.tabSessionId.map .session
  | .freshId => ⟨.fresh b.supply.fresh, b.advance, []⟩
  | .load => ⟨.done, b, greeting.map .console⟩
  | .post url r => (b.post url r).map .response
  | .type element text =>
    ⟨.found (b.page.elements[element]?).isSome, { b with page := b.page.modify element fun e => { e with value := text } }, []⟩
  | .key element k event =>
    match b.key element k event with
    | none => ⟨.prevented none, b, []⟩
    | some o => o.map fun prevented => .prevented (some prevented)
  | .run => b.run.map .count
  | .release n reply =>
    match b.page.replies.release? n reply with
    | none => ⟨.found false, b, []⟩
    | some replies => ⟨.found true, { b with page := { b.page with replies } }, []⟩
  | .prepare reply => ⟨.done, { b with page := { b.page with replies := b.page.replies.prepare reply } }, []⟩
  | .fault call v => ⟨.done, { b with page := { b.page with faults := b.page.faults.put call v } }, []⟩
  | .alter window document storageEnabled =>
    ⟨.done, { b with page := { b.page with window, document, storageEnabled } }, []⟩
  | .resize element s =>
    ⟨.done, { b with page := b.page.modify element fun e =>
      { e with
        scrollTop := s.scrollTop.getD e.scrollTop
        scrollHeight := s.scrollHeight.getD e.scrollHeight
        clientHeight := s.clientHeight.getD e.clientHeight } }, []⟩
  | .write key value => ⟨.done, { b with page := { b.page with storage := b.page.storage.put key value } }, []⟩

end Browser

end Parley

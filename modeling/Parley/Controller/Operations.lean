import Parley.Controller.Basic
import Parley.Exchange.Reply

/-!
# What a chat does

* `send`, `key` : the typed text becomes an exchange, unless it is blank; nothing is sent yet;
* `poll` : starts an exchange, which resolves the session id and sends the request, or goes on with it when an answer
  has come;
* `drop` : gives an exchange up; it awaits its response for ever;
* `load`, `sessionId`, `resetSession`.

Exchanges are independent of each other: any number of them may wait, and replies are shown in the order in which they
are polled to their end.
-/

namespace Parley.Controller

def submitKey : String := "Enter"

def isSubmitKey (key : String) : Bool := key == submitKey

structure Reply where
  exchange : Exchange.Id
  /-- The text taken from the response. -/
  text : String
  markup : String
  deriving DecidableEq, Repr

/-- What came of polling an exchange. -/
inductive Progress
  | unknown
  /-- It was over before. -/
  | gone
  | waiting
  | delivered (reply : Reply)
  | failed (error : Exchange.Error)
  deriving DecidableEq

structure KeyOutcome where
  /-- The host does not do what the key does by default. -/
  preventsDefault : Bool
  /-- The number of the exchange that was handed to the host. -/
  sent : Option Nat
  deriving DecidableEq, Repr

def exchangeField (id : Exchange.Id) : String × String := ("exchange", id.display)

namespace Event

def ignored : Log.Event := ⟨.trace, "ignoring send with empty input", []⟩

def started (id : Exchange.Id) : Log.Event := ⟨.debug, "exchange started", [exchangeField id]⟩

def answered (id : Exchange.Id) (body : Json.Value) : Log.Event :=
  ⟨.info, "agent response", [exchangeField id, ("response", body.compact)]⟩

def failed (id : Exchange.Id) (e : Exchange.Error) : Log.Event :=
  ⟨.error, "chat exchange failed", [exchangeField id, ("stage", e.stage), ("error", e.message)]⟩

def settledTwice (id : Exchange.Id) (r : Exchange.Rejection) : Log.Event :=
  ⟨.warn, "exchange settled twice", [exchangeField id, ("rejection", r.shown)]⟩

end Event

/-- Text is typed in the place of what was in the input field. -/
def type (c : Controller) (text : String) : Controller := { c with input := text }

/-- Makes an exchange of the typed text and clears the input field; blank text stays where it is. The result is the
number under which the host runs the exchange. -/
def send (c : Controller) : Step (Option Nat) :=
  if Text.isBlankText c.input then ⟨none, c, [.log Event.ignored]⟩
  else
    let (id, tracker) := c.tracker.start
    let (transcript, calls) := c.transcript.appendUser c.config.userLabel c.input (some id)
    ⟨some c.pending.length,
      { c with input := "", tracker, transcript, pending := c.pending ++ [⟨id, c.input, .unstarted⟩] },
      calls.map .view ++ [.log (Event.started id)]⟩

def key (c : Controller) (k : String) : Step KeyOutcome :=
  if isSubmitKey k then
    let s := c.send
    ⟨⟨true, s.result⟩, s.state, s.effects⟩
  else ⟨⟨false, none⟩, c, []⟩

/-- The pending exchanges with the phase of number `i` changed. -/
def setPhase (c : Controller) (i : Nat) (phase : Phase) : Controller :=
  { c with pending := c.pending.modify i fun p => { p with phase } }

/-- Records how an exchange ended; an outcome that is rejected is only told in the log. -/
def settle (c : Controller) (id : Exchange.Id) (outcome : Exchange.Outcome) : Step Unit :=
  match c.tracker.settle id outcome with
  | .ok tracker => ⟨(), { c with tracker }, []⟩
  | .error r => ⟨(), c, [.log (Event.settledTwice id r)]⟩

def deliver (c : Controller) (id : Exchange.Id) (body : Json.Value) : Step Reply :=
  let text := Exchange.replyText body
  let markup := c.renderer.render text
  let (t, bot) := c.transcript.appendBot markup (some id)
  let (t, spacer) := t.appendSpacer (some id)
  let (transcript, scroll) := t.scrollToBottom
  let s := { c with transcript }.settle id .delivered
  ⟨⟨id, text, markup⟩, s.state,
    .log (Event.answered id body) :: (bot ++ spacer ++ scroll).map .view ++ s.effects⟩

def fail (c : Controller) (id : Exchange.Id) (e : Exchange.Error) : Step Exchange.Error :=
  let s := c.settle id (.failed e.message)
  ⟨e, s.state, [.log (Event.failed id e), .notify c.config.failureMessage] ++ s.effects⟩

/-- Ends exchange number `i` with what arrived for it. -/
def complete (c : Controller) (i : Nat) (id : Exchange.Id) (a : Exchange.Arrival) : Step Progress :=
  let c := c.setPhase i .gone
  match a.result with
  | .ok body =>
    let s := c.deliver id body
    ⟨.delivered s.result, s.state, a.log.map .log ++ s.effects⟩
  | .error e =>
    let s := c.fail id e
    ⟨.failed s.result, s.state, a.log.map .log ++ s.effects⟩

/-- Goes on with exchange number `i`, whose request of number `n` was sent, if the answer has come. -/
def resume (c : Controller) (answer : Nat → Exchange.Request → Option Exchange.Arrival) (i : Nat) (id : Exchange.Id)
    (n : Nat) (request : Exchange.Request) : Step Progress :=
  match answer n request with
  | none => ⟨.waiting, c, []⟩
  | some a => c.complete i id a

/-- Starts exchange number `i`: the session id is resolved, or `fresh` becomes it, and the request is sent. -/
def begin (c : Controller) (fresh : SessionId) (answer : Nat → Exchange.Request → Option Exchange.Arrival) (i : Nat)
    (p : Pending) : Step Progress :=
  let o := Session.Identity.establish c.config.sessionKey fresh c.store
  let log := o.log.map Effect.log
  let c := { c with store := o.store }
  match o.result with
  | .error e =>
    let s := c.complete i p.exchange (.failure (.session "resolve-session-id" e))
    { s with effects := log ++ s.effects }
  | .ok session =>
    let request : Exchange.Request := ⟨c.config.agentName, p.input, session⟩
    let n := c.sent
    let s := ({ c with sent := n + 1 }.setPhase i (.waiting n request)).resume answer i p.exchange n request
    { s with effects := log ++ .post n request :: s.effects }

/-- Polls exchange number `i`. `answer` tells what has arrived for a request, and `fresh` is the id that is stored if
the session has none. -/
def poll (c : Controller) (fresh : SessionId) (answer : Nat → Exchange.Request → Option Exchange.Arrival) (i : Nat) :
    Step Progress :=
  match c.pending[i]? with
  | none => ⟨.unknown, c, []⟩
  | some p =>
    match p.phase with
    | .gone => ⟨.gone, c, []⟩
    | .unstarted => c.begin fresh answer i p
    | .waiting n request => c.resume answer i p.exchange n request

/-- Gives exchange number `i` up, whether it was started or not; answers whether there is such an exchange. -/
def drop (c : Controller) (i : Nat) : Step Bool :=
  ⟨(c.pending[i]?).isSome, c.setPhase i .gone, []⟩

/-- The surface was loaded: its end is brought into view. -/
def load (c : Controller) : Step Unit :=
  let (transcript, calls) := c.transcript.scrollToBottom
  ⟨(), { c with transcript }, calls.map .view⟩

/-- The session id, which is `fresh` if the session has none yet. -/
def sessionId (c : Controller) (fresh : SessionId) : Step (Except Session.Error SessionId) :=
  let o := Session.Identity.establish c.config.sessionKey fresh c.store
  ⟨o.result, { c with store := o.store }, o.log.map .log⟩

def resetSession (c : Controller) : Step (Except Session.Error Unit) :=
  let o := Session.Identity.reset c.config.sessionKey c.store
  ⟨o.result, { c with store := o.store }, o.log.map .log⟩

def exchangeState? (c : Controller) (id : Exchange.Id) : Option Exchange.State := c.tracker.state? id

/-- How many exchanges await their response. -/
def inFlight (c : Controller) : Nat := c.tracker.inFlight

end Parley.Controller

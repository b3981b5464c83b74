import Parley.Controller.Operations
import Parley.Http.Basic
import Parley.Terminal.Command
import Parley.Terminal.Flags
import Parley.Terminal.Screen

/-!
# The terminal client

* `Client.start` : a chat with nothing said, in the session that was asked for; `Client.prepare` starts one with what
  the command line and the configuration say;
* `Client.obey` : carries out one line; an exchange it starts may have to wait;
* `Client.receive` : goes on with the waiting exchange when its answer has come;
* `Output.carryOut` : what is done of what the client wants to do; the program breaks down when an id cannot be printed
  or a failure cannot be told;
* `Client.run` : carries out lines one after another, every exchange to its end before the next line, and says how it
  ended (`Ending`).
-/

namespace Parley.Terminal

inductive Output
  /-- Prints an entry of the transcript. -/
  | print (text : String)
  /-- Prints what a command asks for. -/
  | answer (text : String)
  /-- Tells the user that something went wrong. -/
  | complain (text : String)
  | post (number : Nat) (request : Exchange.Request)
  | log (event : Log.Event)
  deriving DecidableEq

namespace Output

/-- What the program breaks down with when this cannot be written. It goes on without an entry. -/
def breakdown? : Output → String → Option String
  | answer _, details => some s!"failed printing to stdout: {details}"
  | complain _, details => some s!"failed printing to stderr: {details}"
  | print _, _ | post .., _ | log _, _ => none

/-- Why this cannot be written, if that is so. Events are left to the log. -/
def obstacle? (s : Screen) : Output → Option String
  | print _ | answer _ => s.broken
  | complain _ => s.mute
  | post .. | log _ => none

/-- What the program breaks down with when it does this. -/
def fatal? (s : Screen) (o : Output) : Option String := (o.obstacle? s).bind o.breakdown?

/-- Does one thing after another: what was done, and what the program broke down with before it was through. -/
def carryOut (s : Screen) : List Output → List Output × Option String
  | [] => ([], none)
  | o :: os =>
    match o.fatal? s with
    | some message => ([], some message)
    | none =>
      let (rest, message) := carryOut s os
      (o :: rest, message)

end Output

/-- How a run of the client ends. -/
inductive Ending
  | done
  | failed (error : Error)
  /-- The program breaks down where it is. -/
  | brokeDown (message : String)
  deriving DecidableEq

structure Client where
  chat : Controller
  screen : Screen
  /-- The exchange whose answer is waited for. -/
  awaited : Option Nat := none

/-- What one turn came to: the client afterwards, and what it did. -/
structure Turn where
  client : Client
  outputs : List Output := []

def Turn.after (before : List Output) (t : Turn) : Turn := { t with outputs := before ++ t.outputs }

namespace Client

def output (s : Screen) : Controller.Effect → List Output
  | .view (.render e) =>
    let (text, log) := s.render e
    (if text = "" then [] else [.print text]) ++ log.map .log
  | .view (.scrollTo _) => []
  | .notify message => [.complain s!"error: {message}\n"]
  | .post n r => [.post n r]
  | .log e => [.log e]

def turn {α : Type} (c : Client) (s : Controller.Step α) (awaited : Option Nat := none) : Turn :=
  ⟨{ c with chat := s.state, awaited }, s.effects.flatMap (output c.screen)⟩

/-- A chat in a session that goes on, if one is given. -/
def start (config : Config) (session : Option SessionId) (screen : Screen) : Except Error Turn :=
  let store := Session.Store.ofEntries []
  let adopted : Except Error Session.Store :=
    match session with
    | none => .ok store
    | some id =>
      let o := Session.Identity.adopt config.sessionKey id store
      (o.result.mapError (.session "adopt-session-id")).map fun _ => o.store
  adopted.map fun store =>
    let chat := Controller.start config .plain store { given := Screen.metrics }
    turn ⟨chat, screen, none⟩ chat.load

def connected (url : Url) (config : Config) : Log.Event :=
  ⟨.info, "connected chat client", [("url", url.text), ("agent", config.agentName)]⟩

/-- A client that does what the command line and the loaded configuration say, and the URL of its service. -/
def prepare (fs : Flags) (loading : Config.Loading) (screen : Screen) : Except Error (Url × Turn) :=
  match fs.configuration loading with
  | .error e => .error e
  | .ok config =>
    match Http.endpointOf config with
    | .error e => .error (.config "build-backend" e)
    | .ok url => (start config fs.sessionId? screen).map fun t => (url, t.after [.log (connected url config)])

/-- Goes on with an exchange until it waits or ends. -/
def proceed (c : Client) (fresh : SessionId) (answer : Nat → Exchange.Request → Option Exchange.Arrival) (i : Nat) :
    Turn :=
  let s := c.chat.poll fresh answer i
  c.turn s (if s.result = .waiting then some i else none)

def send (c : Client) (fresh : SessionId) (text : String) : Turn :=
  let s := (c.chat.type text).send
  let t := c.turn s
  match s.result with
  | none => t
  | some i => (proceed t.client fresh (fun _ _ => none) i).after t.outputs

/-- Carries out one line: nothing when the client is to end. -/
def obey (c : Client) (fresh : SessionId) (line : String) : Except Error (Option Turn) :=
  match Command.parse line with
  | .quit => .ok none
  | .send text => .ok (some (c.send fresh text))
  | .showSession =>
    let s := c.chat.sessionId fresh
    (s.result.mapError (.session "show-session-id")).map fun id =>
      let t := c.turn s
      some { t with outputs := t.outputs ++ [.answer (id.text ++ "\n")] }
  | .resetSession =>
    let s := c.chat.resetSession
    (s.result.mapError (.session "reset-session-id")).map fun _ =>
      let t := c.turn s
      some { t with outputs := t.outputs ++ [.log ⟨.info, "session cleared", []⟩] }

/-- Goes on with the awaited exchange, whose answer is there. -/
def receive (c : Client) (fresh : SessionId) (arrival : Exchange.Arrival) : Turn :=
  match c.awaited with
  | none => ⟨c, []⟩
  | some i => c.proceed fresh (fun _ _ => some arrival) i

def posted? (outputs : List Output) : Option Exchange.Request :=
  outputs.findSome? fun
    | .post _ r => some r
    | _ => none

/-- A run so far: the transport `σ`, the ids drawn, and what was done. -/
structure Run (σ : Type) where
  client : Client
  transport : σ
  supply : Session.Supply
  outputs : List Output

/-- A run after a turn; how it ended, if the program broke down meanwhile. -/
def Run.turn {σ : Type} (r : Run σ) (t : Turn) : Run σ × Option Ending :=
  match Output.carryOut r.client.screen t.outputs with
  | (outputs, none) => ({ r with client := t.client, outputs := r.outputs ++ outputs }, none)
  | (outputs, some message) => ({ r with outputs := r.outputs ++ outputs }, some (.brokeDown message))

/-- Carries out a line and the exchange that it starts; how the run ended, if it did. -/
def Run.line {σ : Type} (r : Run σ) (answer : σ → Exchange.Request → Exchange.Arrival × σ) (line : String) :
    Run σ × Option Ending :=
  match r.client.obey r.supply.fresh line with
  | .error e => (r, some (.failed e))
  | .ok none => (r, some .done)
  | .ok (some t) =>
    match Run.turn { r with supply := r.supply.advance } t with
    | (r, some ending) => (r, some ending)
    | (r, none) =>
      match posted? t.outputs with
      | none => (r, none)
      | some request =>
        let (arrival, transport) := answer r.transport request
        Run.turn { r with transport } (r.client.receive r.supply.fresh arrival)

def unreadable : Error := .readInput "read-line" "stream did not contain valid UTF-8"

/-- Carries out lines until one ends the client, and says how it ended. -/
def run {σ : Type} (answer : σ → Exchange.Request → Exchange.Arrival × σ) (r : Run σ) :
    List (Option String) → Run σ × Ending
  | [] => (r, .done)
  | none :: _ => (r, .failed unreadable)
  | some line :: lines =>
    match r.line answer line with
    | (r, some ending) => (r, ending)
    | (r, none) => run answer r lines

end Client

def Ending.exitCode : Ending → Nat
  | done => 0
  | failed _ => 1
  | brokeDown _ => 101

/-- The code with which the client ends when it does not start. -/
def Refusal.exitCode : Refusal → Nat
  | .helpWanted => 0
  | _ => 2

end Parley.Terminal

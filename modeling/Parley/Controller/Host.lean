import Parley.Controller.Operations
import Parley.Exchange.Script

/-!
# A chat and what happens to it

A `Host` is a chat together with its surroundings: a transport whose answers are prepared, and a supply of fresh ids. A
`Move` is one thing that happens, from inside or from outside, in any order; `Host.step` says what comes of it. What
someone else writes to the store is seen under the keys that are known (`Host.entries`).
-/

namespace Parley

structure Host where
  chat : Controller
  script : Exchange.Script Exchange.Arrival
  supply : Session.Supply
  /-- The keys that the store was filled with or asked about. -/
  keys : List String

namespace Host

inductive Move
  | type (text : String)
  | send
  | key (k : String)
  | poll (i : Nat)
  | drop (i : Nat)
  /-- The answer of a request that is held back is there. -/
  | release (n : Nat) (a : Exchange.Arrival)
  /-- One more answer is prepared. -/
  | prepare (p : Exchange.Prepared Exchange.Arrival)
  | load
  | resize (metrics : Transcript.Metrics) (rowHeight : Option Binary64)
  | refuse (refusal : Session.Call → Option Session.Refusal)
  /-- Something else writes to the store. -/
  | write (key value : String)
  | sessionId
  | resetSession

inductive Answer
  | done
  | sent (i : Option Nat)
  | key (outcome : Controller.KeyOutcome)
  | progress (p : Controller.Progress)
  | found (b : Bool)
  | session (result : Except Session.Error SessionId)
  | reset (result : Except Session.Error Unit)

/-- A move's answer, the host afterwards, and the effects on the way. -/
structure Outcome where
  answer : Answer
  host : Host
  effects : List Controller.Effect := []

/-- A host of a chat whose store is filled already. -/
def start (chat : Controller) (script : Exchange.Script Exchange.Arrival) (supply : Session.Supply) : Host :=
  ⟨chat, script, supply, chat.store.entries.map Prod.fst⟩

/-- What the store holds under the keys that are known. -/
def entries (h : Host) : Session.Entries := h.chat.store.entries.filter fun e => h.keys.contains e.1

/-- The host after the chat asked its store for something. -/
def ask (h : Host) : Host := { h with keys := h.chat.config.sessionKey :: h.keys }

def startsExchange (h : Host) (i : Nat) : Bool :=
  match h.chat.pending[i]? with
  | some p => p.phase = .unstarted
  | none => false

def outcome {α : Type} (h : Host) (s : Controller.Step α) (answer : α → Answer) : Outcome :=
  ⟨answer s.result, { h with chat := s.state }, s.effects⟩

def posts (effects : List Controller.Effect) : Bool :=
  effects.any fun
    | .post _ _ => true
    | _ => false

/-- The host after the chat used what the next fresh id and the next answer would be. -/
def consume (o : Outcome) : Outcome :=
  let h := { o.host with supply := o.host.supply.advance }
  { o with host := if posts o.effects then { h with script := h.script.take } else h }

def step (h : Host) : Move → Outcome
  | .type text => ⟨.done, { h with chat := h.chat.type text }, []⟩
  | .send => h.outcome h.chat.send .sent
  | .key k => h.outcome (h.chat.key k) .key
  | .poll i =>
    let h := if h.startsExchange i then h.ask else h
    consume (h.outcome (h.chat.poll h.supply.fresh (fun n _ => h.script.answer? n) i) .progress)
  | .drop i => h.outcome (h.chat.drop i) .found
  | .release n a =>
    match h.script.release? n a with
    | some script => ⟨.found true, { h with script }, []⟩
    | none => ⟨.found false, h, []⟩
  | .prepare p => ⟨.done, { h with script := h.script.prepare p }, []⟩
  | .load => h.outcome h.chat.load fun _ => .done
  | .resize metrics rowHeight =>
    let t := h.chat.transcript
    ⟨.done, { h with chat := { h.chat with transcript := { t with view := ⟨metrics, rowHeight, t.view.rows⟩ } } }, []⟩
  | .refuse refusal => ⟨.done, { h with chat := { h.chat with store := { h.chat.store with refusal } } }, []⟩
  | .write key value =>
    let s := h.chat.store
    ⟨.done, { h with chat := { h.chat with store := { s with entries := s.entries.put key value } } }, []⟩
  | .sessionId => consume (h.ask.outcome (h.chat.sessionId h.supply.fresh) .session)
  | .resetSession => h.ask.outcome h.chat.resetSession .reset

end Host

end Parley

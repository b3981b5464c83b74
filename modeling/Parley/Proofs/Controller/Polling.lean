import Parley.Proofs.Controller.Requests

/-!
# The ways in which polling goes

`Polling` says of every way what comes of it: the whole step, with its result, the chat afterwards and the effects.

* `Step.preceded` : a step with effects before it;
* `requestOf`, `handing` : the request of an exchange, and the chat when it is handed over;
* `Arrival.outcome`, `returns`, `Progress.returned?` : how an exchange ends, and what polling to the end returns;
* `asked?` : the request whose answer polling looks for;
* `resume_none`, `resume_some` : whoever waits goes on with what arrived;
* `poll_unknown`, `poll_gone`, `poll_refused`, `poll_started`, `poll_waits`, `poll_waiting` : the ways, and
  `poll_polling` : there is no other.
-/

namespace Parley

def Exchange.Arrival.outcome (a : Exchange.Arrival) : Exchange.Outcome :=
  match a.result with
  | .ok _ => .delivered
  | .error e => .failed e.message

namespace Controller

open Session.Identity (establish establish_spec)

variable (c : Controller) (i : Nat)

def Step.preceded {α : Type} (before : List Effect) (s : Step α) : Step α := { s with effects := before ++ s.effects }

def requestOf (p : Pending) (session : SessionId) : Exchange.Request := ⟨c.config.agentName, p.input, session⟩

/-- The chat when the request of exchange number `i` is handed over. -/
def handing (store : Session.Store) (request : Exchange.Request) : Controller :=
  { c with store, sent := c.sent + 1 }.setPhase i (.waiting c.sent request)

/-- What polling an exchange to its end returns when `result` came for it. -/
def returns (id : Exchange.Id) (result : Except Exchange.Error Json.Value) : Except Exchange.Error Reply :=
  result.map fun body => ⟨id, Exchange.replyText body, c.renderer.render (Exchange.replyText body)⟩

def Progress.returned? : Progress → Option (Except Exchange.Error Reply)
  | .delivered reply => some (.ok reply)
  | .failed e => some (.error e)
  | .unknown | .gone | .waiting => none

theorem returned?_complete (id : Exchange.Id) (a : Exchange.Arrival) :
    (c.complete i id a).result.returned? = some (c.returns id a.result) := by
  unfold complete
  dsimp only
  cases a.result <;> rfl

/-- The request whose answer polling exchange number `i` looks for, and its number: the one that is handed over now, or
the one that waits. -/
def asked? (fresh : SessionId) : Option (Nat × Exchange.Request) :=
  (c.pending[i]?).bind fun p =>
    match p.phase with
    | .unstarted =>
      (establish c.config.sessionKey fresh c.store).result.toOption.map fun session => (c.sent, c.requestOf p session)
    | .waiting n q => some (n, q)
    | .gone => none

inductive Polling (fresh : SessionId) (answer : Nat → Exchange.Request → Option Exchange.Arrival) :
    Step Progress → Prop
  | unknown (absent : c.pending[i]? = none) : Polling fresh answer ⟨.unknown, c, []⟩
  | gone {p : Pending} (hp : c.pending[i]? = some p) (phase : p.phase = .gone) : Polling fresh answer ⟨.gone, c, []⟩
  /-- No id is to be had for it. -/
  | refused {p : Pending} {e : Session.Error} {log : List Log.Event} (hp : c.pending[i]? = some p)
      (phase : p.phase = .unstarted)
      (established : establish c.config.sessionKey fresh c.store = ⟨.error e, c.store, log⟩) :
      Polling fresh answer
        ((c.complete i p.exchange (.failure (.session "resolve-session-id" e))).preceded (log.map .log))
  /-- It is started: its request is handed over, and it goes on. -/
  | started {p : Pending} {session : SessionId} {store : Session.Store} {log : List Log.Event}
      (hp : c.pending[i]? = some p) (phase : p.phase = .unstarted)
      (established : establish c.config.sessionKey fresh c.store = ⟨.ok session, store, log⟩) :
      Polling fresh answer
        (((c.handing i store (c.requestOf p session)).resume answer i p.exchange c.sent
          (c.requestOf p session)).preceded (log.map .log ++ [.post c.sent (c.requestOf p session)]))
  /-- It was started before, and goes on. -/
  | waiting {p : Pending} {n : Nat} {q : Exchange.Request} (hp : c.pending[i]? = some p)
      (phase : p.phase = .waiting n q) : Polling fresh answer (c.resume answer i p.exchange n q)

theorem resume_none {answer : Nat → Exchange.Request → Option Exchange.Arrival} {n : Nat} {q : Exchange.Request}
    (h : answer n q = none) (id : Exchange.Id) : c.resume answer i id n q = ⟨.waiting, c, []⟩ := by
  rw [resume, h]

theorem resume_some {answer : Nat → Exchange.Request → Option Exchange.Arrival} {n : Nat} {q : Exchange.Request}
    {a : Exchange.Arrival} (h : answer n q = some a) (id : Exchange.Id) :
    c.resume answer i id n q = c.complete i id a := by
  rw [resume, h]

theorem returned?_resume (answer : Nat → Exchange.Request → Option Exchange.Arrival) (id : Exchange.Id) (n : Nat)
    (q : Exchange.Request) :
    (c.resume answer i id n q).result.returned? = (answer n q).map fun a => c.returns id a.result := by
  cases ha : answer n q with
  | none =>
    rw [resume_none c i ha]
    rfl
  | some a =>
    rw [resume_some c i ha]
    exact returned?_complete c i id a

variable {c i} {p : Pending}

theorem asked?_gone (hp : c.pending[i]? = some p) (phase : p.phase = .gone) (fresh : SessionId) :
    c.asked? i fresh = none := by
  rw [asked?, hp, Option.bind_some, phase]

theorem asked?_waiting {n : Nat} {q : Exchange.Request} (hp : c.pending[i]? = some p) (phase : p.phase = .waiting n q)
    (fresh : SessionId) : c.asked? i fresh = some (n, q) := by
  rw [asked?, hp, Option.bind_some, phase]

theorem asked?_unstarted (hp : c.pending[i]? = some p) (phase : p.phase = .unstarted) (fresh : SessionId) :
    c.asked? i fresh = (establish c.config.sessionKey fresh c.store).result.toOption.map
      fun session => (c.sent, c.requestOf p session) := by
  rw [asked?, hp, Option.bind_some, phase]

variable {fresh : SessionId} {answer : Nat → Exchange.Request → Option Exchange.Arrival}

theorem poll_unknown (absent : c.pending[i]? = none) : c.poll fresh answer i = ⟨.unknown, c, []⟩ := by
  rw [poll, absent]

theorem poll_gone (hp : c.pending[i]? = some p) (phase : p.phase = .gone) :
    c.poll fresh answer i = ⟨.gone, c, []⟩ := by
  rw [poll, hp]
  dsimp only
  rw [phase]

theorem poll_waiting {n : Nat} {q : Exchange.Request} (hp : c.pending[i]? = some p) (phase : p.phase = .waiting n q) :
    c.poll fresh answer i = c.resume answer i p.exchange n q := by
  rw [poll, hp]
  dsimp only
  rw [phase]

theorem poll_unstarted (hp : c.pending[i]? = some p) (phase : p.phase = .unstarted) :
    c.poll fresh answer i = c.begin fresh answer i p := by
  rw [poll, hp]
  dsimp only
  rw [phase]

/-- Without an id the exchange is over at once. -/
theorem poll_refused {e : Session.Error} {log : List Log.Event} (hp : c.pending[i]? = some p)
    (phase : p.phase = .unstarted)
    (established : establish c.config.sessionKey fresh c.store = ⟨.error e, c.store, log⟩) :
    c.poll fresh answer i =
      (c.complete i p.exchange (.failure (.session "resolve-session-id" e))).preceded (log.map .log) := by
  rw [poll_unstarted hp phase, Controller.begin, established]
  rfl

theorem poll_started {session : SessionId} {store : Session.Store} {log : List Log.Event}
    (hp : c.pending[i]? = some p) (phase : p.phase = .unstarted)
    (established : establish c.config.sessionKey fresh c.store = ⟨.ok session, store, log⟩) :
    c.poll fresh answer i =
      ((c.handing i store (c.requestOf p session)).resume answer i p.exchange c.sent
        (c.requestOf p session)).preceded (log.map .log ++ [.post c.sent (c.requestOf p session)]) := by
  rw [poll_unstarted hp phase, Controller.begin, established, Step.preceded, List.append_assoc]
  rfl

theorem poll_waits {session : SessionId} {store : Session.Store} {log : List Log.Event}
    (hp : c.pending[i]? = some p) (phase : p.phase = .unstarted)
    (established : establish c.config.sessionKey fresh c.store = ⟨.ok session, store, log⟩) :
    c.poll fresh (fun _ _ => none) i =
      ⟨.waiting, c.handing i store (c.requestOf p session),
        log.map .log ++ [.post c.sent (c.requestOf p session)]⟩ := by
  rw [poll_started hp phase established, resume_none _ _ rfl, Step.preceded, List.append_nil]

theorem asked?_refused {e : Session.Error} {log : List Log.Event} (hp : c.pending[i]? = some p)
    (phase : p.phase = .unstarted)
    (established : establish c.config.sessionKey fresh c.store = ⟨.error e, c.store, log⟩) :
    c.asked? i fresh = none := by
  rw [asked?_unstarted hp phase, established]
  rfl

theorem asked?_started {session : SessionId} {store : Session.Store} {log : List Log.Event}
    (hp : c.pending[i]? = some p) (phase : p.phase = .unstarted)
    (established : establish c.config.sessionKey fresh c.store = ⟨.ok session, store, log⟩) :
    c.asked? i fresh = some (c.sent, c.requestOf p session) := by
  rw [asked?_unstarted hp phase, established]
  rfl

theorem poll_polling (c : Controller) (i : Nat) (fresh : SessionId)
    (answer : Nat → Exchange.Request → Option Exchange.Arrival) :
    Polling c i fresh answer (c.poll fresh answer i) := by
  cases hp : c.pending[i]? with
  | none =>
    rw [poll_unknown hp]
    exact .unknown hp
  | some p =>
    cases phase : p.phase with
    | gone =>
      rw [poll_gone hp phase]
      exact .gone hp phase
    | waiting n q =>
      rw [poll_waiting hp phase]
      exact .waiting hp phase
    | unstarted =>
      have hspec := establish_spec c.config.sessionKey fresh c.store
      generalize ho : establish c.config.sessionKey fresh c.store = o at hspec
      obtain ⟨result, store, log⟩ := o
      cases result with
      | error e =>
        obtain rfl : store = c.store := hspec.store_eq
        rw [poll_refused hp phase ho]
        exact .refused hp phase ho
      | ok session =>
        rw [poll_started hp phase ho]
        exact .started hp phase ho

end Controller

end Parley

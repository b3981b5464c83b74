import Parley.Proofs.Controller.Phase

/-!
# What an operation can do to a conversation

A conversation is what a chat keeps of its exchanges (`Talk`): the settings, the tracker, the entries, and the exchanges
handed to the host. Every operation comes to one `Deed`, and `Does` says all that a deed does: the conversation
afterwards, the calls on the surface, and the notices.

* `send_blank`, `send_typed`, `key_submit`, `key_other`, `send_does`, `poll_does`, `drop_does`,
  `load_does` : the deed of each operation;
* `Polls` : what polling answers when it comes to a deed.
-/

namespace Parley.Controller

/-! ## Effects -/

namespace Effect

def call? : Effect → Option Transcript.ViewCall
  | .view call => some call
  | _ => none

def notice? : Effect → Option String
  | .notify message => some message
  | _ => none

def request? : Effect → Option Exchange.Request
  | .post _ r => some r
  | _ => none

def calls (es : List Effect) : List Transcript.ViewCall := es.filterMap call?

def notices (es : List Effect) : List String := es.filterMap notice?

def requests (es : List Effect) : List Exchange.Request := es.filterMap request?

@[simp] theorem calls_append (es fs : List Effect) : calls (es ++ fs) = calls es ++ calls fs := List.filterMap_append

@[simp] theorem notices_append (es fs : List Effect) : notices (es ++ fs) = notices es ++ notices fs :=
  List.filterMap_append

@[simp] theorem requests_append (es fs : List Effect) : requests (es ++ fs) = requests es ++ requests fs :=
  List.filterMap_append

@[simp] theorem calls_log (es : List Log.Event) : calls (es.map .log) = [] := by
  simp [calls, List.filterMap_map, Function.comp_def, call?]

@[simp] theorem notices_log (es : List Log.Event) : notices (es.map .log) = [] := by
  simp [notices, List.filterMap_map, Function.comp_def, notice?]

@[simp] theorem requests_log (es : List Log.Event) : requests (es.map .log) = [] := by
  simp [requests, List.filterMap_map, Function.comp_def, request?]

@[simp] theorem requests_view (vs : List Transcript.ViewCall) : requests (vs.map .view) = [] := by
  simp [requests, List.filterMap_map, Function.comp_def, request?]

end Effect

open Effect

/-! ## Conversations -/

/-- What a chat keeps of its exchanges, and its settings. -/
structure Talk where
  config : Config
  renderer : Markdown.Renderer
  tracker : Exchange.Tracker
  entries : List Transcript.Entry
  pending : List Pending

def talk (c : Controller) : Talk := ⟨c.config, c.renderer, c.tracker, c.transcript.entries, c.pending⟩

inductive Deed
  /-- Nothing is said. -/
  | quiet
  /-- The end is brought into view. -/
  | scrolled
  /-- An exchange is made of the typed text. -/
  | opened (p : Pending)
  /-- The reply in a response body is shown. -/
  | delivered (id : Exchange.Id) (body : Json.Value)
  | failed (id : Exchange.Id) (e : Exchange.Error)

/-- The tracker with an outcome, which is recorded unless it is rejected. -/
def record (t : Exchange.Tracker) (id : Exchange.Id) (outcome : Exchange.Outcome) : Exchange.Tracker :=
  match t.settle id outcome with
  | .ok t' => t'
  | .error _ => t

/-- The exchange that `send` makes of the typed text. -/
def next (c : Controller) : Pending := ⟨c.tracker.started + 1, c.input, .unstarted⟩

def userEntry (c : Controller) : Transcript.Entry :=
  ⟨c.transcript.nextId, .user, .text (Transcript.userText c.config.userLabel c.input), some c.next.exchange⟩

/-- The entry in which the reply in a response body is shown. -/
def botEntry (c : Controller) (id : Exchange.Id) (body : Json.Value) : Transcript.Entry :=
  ⟨c.transcript.nextId, .bot, .markup (c.renderer.render (Exchange.replyText body)), some id⟩

def spacerEntry (c : Controller) (id : Exchange.Id) : Transcript.Entry :=
  ⟨c.transcript.nextId + 1, .spacer, .empty, some id⟩

/-- A deed of `c`: the conversation afterwards, the calls on the surface, and the notices. -/
inductive Does (c : Controller) : Deed → Talk → List Transcript.ViewCall → List String → Prop
  | quiet : Does c .quiet c.talk [] []
  /-- Only a live exchange goes on to live. -/
  | phased {k : Nat} {phase : Phase}
      (live : phase ≠ .gone → ∃ p, c.pending[k]? = some p ∧ p.phase ≠ .gone) :
      Does c .quiet { c.talk with pending := (c.setPhase k phase).pending } [] []
  | scrolled : Does c .scrolled c.talk [.scrollTo c.transcript.view.metrics.bottom] []
  | opened (hb : Text.isBlankText c.input = false) :
      Does c (.opened c.next)
        { c.talk with
          tracker := c.tracker.start.2
          entries := c.transcript.entries ++ [c.userEntry]
          pending := c.pending ++ [c.next] }
        [.render c.userEntry] []
  | delivered {k : Nat} {p : Pending} {body : Json.Value} (hp : c.pending[k]? = some p) (live : p.phase ≠ .gone) :
      Does c (.delivered p.exchange body)
        { c.talk with
          tracker := record c.tracker p.exchange .delivered
          entries := c.transcript.entries ++ [c.botEntry p.exchange body, c.spacerEntry p.exchange]
          pending := (c.setPhase k .gone).pending }
        [.render (c.botEntry p.exchange body), .render (c.spacerEntry p.exchange),
          .scrollTo ((c.transcript.view.apply (.render (c.botEntry p.exchange body))).apply
            (.render (c.spacerEntry p.exchange))).metrics.bottom] []
  | failed {k : Nat} {p : Pending} {e : Exchange.Error} (hp : c.pending[k]? = some p) (live : p.phase ≠ .gone) :
      Does c (.failed p.exchange e)
        { c.talk with
          tracker := record c.tracker p.exchange (.failed e.message)
          pending := (c.setPhase k .gone).pending }
        [] [c.config.failureMessage]

/-! ## The deed of each operation -/

theorem send_blank {c : Controller} (hb : Text.isBlankText c.input = true) :
    c.send = ⟨none, c, [.log Event.ignored]⟩ := by
  rw [send, if_pos hb]

/-- A submission of other text makes an exchange of it and clears the field. -/
theorem send_typed {c : Controller} (hb : Text.isBlankText c.input = false) :
    c.send = ⟨some c.pending.length,
      { c with
        input := ""
        tracker := c.tracker.start.2
        transcript := (c.transcript.appendUser c.config.userLabel c.input (some c.next.exchange)).1
        pending := c.pending ++ [c.next] },
      [.view (.render c.userEntry), .log (Event.started c.next.exchange)]⟩ := by
  rw [send, if_neg (by rw [hb]; exact Bool.false_ne_true)]
  rfl

theorem send_does {c : Controller} (hb : Text.isBlankText c.input = false) :
    c.send.result = some c.pending.length ∧
      Does c (.opened c.next) c.send.state.talk (calls c.send.effects) (notices c.send.effects) := by
  rw [send_typed hb]
  exact ⟨rfl, .opened hb⟩

theorem key_submit {k : String} (hk : isSubmitKey k = true) (c : Controller) :
    c.key k = ⟨⟨true, c.send.result⟩, c.send.state, c.send.effects⟩ := by
  rw [key, if_pos hk]

theorem key_other {k : String} (hk : isSubmitKey k = false) (c : Controller) : c.key k = ⟨⟨false, none⟩, c, []⟩ := by
  rw [key, if_neg (by rw [hk]; exact Bool.false_ne_true)]

theorem settle_state (c : Controller) (id : Exchange.Id) (outcome : Exchange.Outcome) :
    (c.settle id outcome).state = { c with tracker := record c.tracker id outcome } := by
  unfold settle record
  cases c.tracker.settle id outcome <;> rfl

theorem settle_effects (c : Controller) (id : Exchange.Id) (outcome : Exchange.Outcome) :
    ∃ log : List Log.Event, (c.settle id outcome).effects = log.map .log := by
  unfold settle
  split
  · exact ⟨[], rfl⟩
  · next r _ => exact ⟨[Event.settledTwice id r], rfl⟩

theorem calls_settle (c : Controller) (id : Exchange.Id) (outcome : Exchange.Outcome) :
    calls (c.settle id outcome).effects = [] := by
  obtain ⟨log, h⟩ := settle_effects c id outcome
  rw [h, calls_log]

theorem notices_settle (c : Controller) (id : Exchange.Id) (outcome : Exchange.Outcome) :
    notices (c.settle id outcome).effects = [] := by
  obtain ⟨log, h⟩ := settle_effects c id outcome
  rw [h, notices_log]

theorem requests_settle (c : Controller) (id : Exchange.Id) (outcome : Exchange.Outcome) :
    requests (c.settle id outcome).effects = [] := by
  obtain ⟨log, h⟩ := settle_effects c id outcome
  rw [h, requests_log]

theorem spacerEntry_eq (c : Controller) (id : Exchange.Id) (markup : String) :
    c.spacerEntry id = ⟨(c.transcript.appendBot markup (some id)).1.nextId, .spacer, .empty, some id⟩ := by
  simp only [spacerEntry, Transcript.nextId, Transcript.appendBot, Transcript.push, List.length_append,
    List.length_cons, List.length_nil]

/-- A reply is shown with an empty line after it, and then the end is brought into view. -/
theorem deliver_talk (c : Controller) (id : Exchange.Id) (body : Json.Value) :
    (c.deliver id body).state.talk = { c.talk with
      tracker := record c.tracker id .delivered
      entries := c.transcript.entries ++ [c.botEntry id body, c.spacerEntry id] } := by
  show (Controller.settle _ id .delivered).state.talk = _
  rw [settle_state, spacerEntry_eq c id (c.renderer.render (Exchange.replyText body))]
  show Talk.mk _ _ _ (c.transcript.entries ++ [_] ++ [_]) _ = _
  rw [List.append_assoc]
  rfl

theorem deliver_calls (c : Controller) (id : Exchange.Id) (body : Json.Value) :
    calls (c.deliver id body).effects = [.render (c.botEntry id body), .render (c.spacerEntry id),
      .scrollTo ((c.transcript.view.apply (.render (c.botEntry id body))).apply
        (.render (c.spacerEntry id))).metrics.bottom] := by
  rw [spacerEntry_eq c id (c.renderer.render (Exchange.replyText body))]
  show calls (.log _ :: _ ++ (Controller.settle _ id .delivered).effects) = _
  rw [calls_append, calls_settle]
  rfl

theorem deliver_notices (c : Controller) (id : Exchange.Id) (body : Json.Value) :
    notices (c.deliver id body).effects = [] := by
  show notices (.log _ :: _ ++ (Controller.settle _ id .delivered).effects) = _
  rw [notices_append, notices_settle]
  rfl

/-! ### Polling -/

/-- The number of the request whose answer an exchange waits for, or will wait for when it is started. -/
def asks? (c : Controller) (p : Pending) : Option Nat :=
  match p.phase with
  | .unstarted => some c.sent
  | .waiting n _ => some n
  | .gone => none

inductive Polls (c : Controller) (answer : Nat → Exchange.Request → Option Exchange.Arrival) (i : Nat) :
    Progress → Deed → Prop
  | idle {result : Progress} (h : result = .unknown ∨ result = .gone ∨ result = .waiting) :
      Polls c answer i result .quiet
  | delivered {p : Pending} {n : Nat} {r : Exchange.Request} {log : List Log.Event} {body : Json.Value}
      (hp : c.pending[i]? = some p) (hn : c.asks? p = some n) (ha : answer n r = some ⟨log, .ok body⟩) :
      Polls c answer i
        (.delivered ⟨p.exchange, Exchange.replyText body, c.renderer.render (Exchange.replyText body)⟩)
        (.delivered p.exchange body)
  | failed {p : Pending} {e : Exchange.Error} (hp : c.pending[i]? = some p) :
      Polls c answer i (.failed e) (.failed p.exchange e)

theorem Polls.answered {c : Controller} {answer : Nat → Exchange.Request → Option Exchange.Arrival} {k : Nat}
    {result : Progress} {id : Exchange.Id} {body : Json.Value} (h : Polls c answer k result (.delivered id body)) :
    ∃ n r log, answer n r = some ⟨log, .ok body⟩ := by
  cases h with
  | delivered hp hn ha => exact ⟨_, _, _, ha⟩

/-- `s` is what polling exchange number `i` of `c` may come to. -/
def Polled (c : Controller) (answer : Nat → Exchange.Request → Option Exchange.Arrival) (i : Nat)
    (s : Step Progress) : Prop :=
  ∃ d, Polls c answer i s.result d ∧ Does c d s.state.talk (calls s.effects) (notices s.effects)

/-- The two differ at most in the store, in what was sent, and in how far exchange number `i` has got. -/
structure Alike (i : Nat) (c c' : Controller) : Prop where
  config : c'.config = c.config
  renderer : c'.renderer = c.renderer
  tracker : c'.tracker = c.tracker
  transcript : c'.transcript = c.transcript
  pending : (c'.setPhase i .gone).pending = (c.setPhase i .gone).pending

section Poll
variable {c c' : Controller} {answer : Nat → Exchange.Request → Option Exchange.Arrival} {i : Nat} {p : Pending}

theorem Alike.setPhase (h : Alike i c c') (phase : Phase) : Alike i c (c'.setPhase i phase) :=
  ⟨h.config, h.renderer, h.tracker, h.transcript, by rw [setPhase_setPhase]; exact h.pending⟩

theorem Polled.prefixed {s : Step Progress} (h : Polled c answer i s) {es : List Effect} (hc : calls es = [])
    (hn : notices es = []) : Polled c answer i { s with effects := es ++ s.effects } := by
  obtain ⟨d, hd, h⟩ := h
  refine ⟨d, hd, ?_⟩
  rw [calls_append, notices_append, hc, hn]
  exact h

/-- A live exchange that something arrived for is at its end. -/
theorem Alike.complete (h : Alike i c c') (hp : c.pending[i]? = some p) (live : p.phase ≠ .gone)
    {a : Exchange.Arrival} (ha : ∀ body, a.result = .ok body → ∃ n r, c.asks? p = some n ∧ answer n r = some a) :
    Polled c answer i (c'.complete i p.exchange a) := by
  obtain ⟨log, result⟩ := a
  obtain ⟨config, renderer, input, store, tracker, transcript, pending, sent⟩ := c'
  obtain ⟨rfl, rfl, rfl, rfl, hgone⟩ := h
  cases result with
  | ok body =>
    obtain ⟨n, r, hn, hr⟩ := ha body rfl
    refine ⟨.delivered p.exchange body, .delivered hp hn hr, ?_⟩
    show Does c _ (Controller.deliver _ p.exchange body).state.talk (calls (_ ++ _)) (notices (_ ++ _))
    rw [deliver_talk, calls_append, calls_log, deliver_calls, notices_append, notices_log, deliver_notices]
    show Does c _ ⟨_, _, _, _, (Controller.setPhase _ i .gone).pending⟩ _ _
    rw [hgone]
    exact .delivered hp live
  | error e =>
    refine ⟨.failed p.exchange e, .failed hp, ?_⟩
    show Does c _ (Controller.settle _ p.exchange (.failed e.message)).state.talk (calls (_ ++ (_ ++ _)))
      (notices (_ ++ (_ ++ _)))
    rw [settle_state, calls_append, calls_append, calls_log, calls_settle, notices_append, notices_append, notices_log,
      notices_settle]
    show Does c _ ⟨_, _, _, _, (Controller.setPhase _ i .gone).pending⟩ _ _
    rw [hgone]
    exact .failed hp live

theorem Alike.resume {n : Nat} {request : Exchange.Request} (h : Alike i c c') (hp : c.pending[i]? = some p)
    (live : p.phase ≠ .gone) (hn : c.asks? p = some n) (waits : Does c .quiet c'.talk [] []) :
    Polled c answer i (c'.resume answer i p.exchange n request) := by
  unfold Controller.resume
  cases ha : answer n request with
  | none => exact ⟨.quiet, .idle (.inr (.inr rfl)), waits⟩
  | some a => exact h.complete hp live fun body _ => ⟨n, request, hn, ha⟩

/-- An exchange that is started fails at once without a session id; with one its request is sent, and it goes on. -/
theorem begin_does (fresh : SessionId) (hp : c.pending[i]? = some p) (hu : p.phase = .unstarted) :
    Polled c answer i (c.begin fresh answer i p) := by
  have live : p.phase ≠ .gone := by
    rw [hu]
    exact Phase.noConfusion
  have hn : c.asks? p = some c.sent := by
    rw [asks?, hu]
  unfold Controller.begin
  generalize Session.Identity.establish c.config.sessionKey fresh c.store = o
  dsimp only
  split
  · have h : Alike i c { c with store := o.store } := ⟨rfl, rfl, rfl, rfl, rfl⟩
    refine Polled.prefixed (h.complete hp live ?_) (calls_log o.log) (notices_log o.log)
    rintro body ⟨⟩
  · next session _ =>
    have h : Alike i c { c with store := o.store, sent := c.sent + 1 } := ⟨rfl, rfl, rfl, rfl, rfl⟩
    rw [List.append_cons]
    refine ((h.setPhase _).resume hp live hn (.phased fun _ => ⟨p, hp, live⟩)).prefixed ?_ ?_
    · rw [calls_append, calls_log]
      rfl
    · rw [notices_append, notices_log]
      rfl

end Poll

theorem poll_does (c : Controller) (fresh : SessionId)
    (answer : Nat → Exchange.Request → Option Exchange.Arrival) (i : Nat) :
    Polled c answer i (c.poll fresh answer i) := by
  unfold poll
  split
  · exact ⟨.quiet, .idle (.inl rfl), .quiet⟩
  · next p hp =>
    split
    · exact ⟨.quiet, .idle (.inr (.inl rfl)), .quiet⟩
    · next hu => exact begin_does fresh hp hu
    · next n request hw =>
      have h : Alike i c c := ⟨rfl, rfl, rfl, rfl, rfl⟩
      refine h.resume hp (by rw [hw]; exact Phase.noConfusion) ?_ .quiet
      rw [asks?, hw]

theorem drop_does (c : Controller) (i : Nat) :
    Does c .quiet (c.drop i).state.talk (calls (c.drop i).effects) (notices (c.drop i).effects) :=
  .phased fun h => absurd rfl h

theorem load_does (c : Controller) :
    Does c .scrolled c.load.state.talk (calls c.load.effects) (notices c.load.effects) :=
  .scrolled

end Parley.Controller

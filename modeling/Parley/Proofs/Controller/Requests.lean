import Parley.Proofs.Controller.Deed
import Parley.Proofs.Session.Identity

/-!
# What is handed to the transport

* `send_keeps` : nothing is handed over when an exchange is made;
* `Keeps` : nothing is handed over, and the store stays as it is; `complete_keeps`, `resume_keeps`;
* `Handed` : all that polling can come to: it goes on, is refused an id, or hands over the one request of the exchange;
  `poll_handed`.
-/

namespace Parley.Controller

open Effect
open Session.Identity (Established)

/-- A submission hands nothing over, and leaves the store alone. -/
theorem send_keeps (c : Controller) :
    requests c.send.effects = [] ∧ c.send.state.store = c.store ∧ c.send.state.sent = c.sent ∧
      c.send.state.pending = c.pending ++ (c.send.result.bind (c.send.state.pending[·]?)).toList := by
  cases hb : Text.isBlankText c.input with
  | true =>
    rw [send_blank hb]
    exact ⟨rfl, rfl, rfl, (List.append_nil _).symm⟩
  | false =>
    rw [send_typed hb]
    refine ⟨rfl, rfl, rfl, ?_⟩
    show _ = c.pending ++ ((c.pending ++ [c.next])[c.pending.length]?).toList
    rw [List.getElem?_concat_length]
    rfl

/-- Nothing is handed over, and at most exchange number `i` comes to its end. -/
structure Keeps (c : Controller) (i : Nat) (s : Step Progress) : Prop where
  requests : requests s.effects = []
  store : s.state.store = c.store
  sent : s.state.sent = c.sent
  pending : s.state.pending = c.pending ∨ s.state.pending = (c.setPhase i .gone).pending

section Keeps
variable (c : Controller) (i : Nat) (id : Exchange.Id)

theorem requests_deliver (body : Json.Value) : requests (c.deliver id body).effects = [] := by
  show requests (.log _ :: List.map _ _ ++ (Controller.settle _ id .delivered).effects) = []
  rw [requests_append, requests_settle, List.append_nil]
  exact requests_view _

theorem requests_fail (e : Exchange.Error) : requests (c.fail id e).effects = [] := by
  show requests ([_, _] ++ (c.settle id _).effects) = []
  rw [requests_append, requests_settle]
  rfl

/-- Who is at its end changes nothing but its own state and the transcript. -/
theorem complete_state (a : Exchange.Arrival) :
    ∃ tracker transcript, (c.complete i id a).state = { c.setPhase i .gone with tracker, transcript } := by
  unfold complete
  dsimp only
  split
  · exact ⟨_, _, settle_state _ id .delivered⟩
  · exact ⟨_, _, settle_state _ id _⟩

theorem requests_complete (a : Exchange.Arrival) : requests (c.complete i id a).effects = [] := by
  unfold complete
  dsimp only
  split
  · rw [requests_append, requests_log, requests_deliver]
    rfl
  · rw [requests_append, requests_log, requests_fail]
    rfl

theorem complete_pending (a : Exchange.Arrival) :
    (c.complete i id a).state.pending = (c.setPhase i .gone).pending := by
  obtain ⟨tracker, transcript, hs⟩ := complete_state c i id a
  rw [hs]

theorem complete_keeps (a : Exchange.Arrival) : Keeps c i (c.complete i id a) := by
  refine ⟨requests_complete c i id a, ?_, ?_, .inr (complete_pending c i id a)⟩
  all_goals
    obtain ⟨tracker, transcript, hs⟩ := complete_state c i id a
    rw [hs]
    rfl

theorem resume_keeps (answer : Nat → Exchange.Request → Option Exchange.Arrival) (n : Nat)
    (request : Exchange.Request) : Keeps c i (c.resume answer i id n request) := by
  unfold resume
  cases answer n request with
  | none => exact ⟨rfl, rfl, rfl, .inl rfl⟩
  | some a => exact complete_keeps c i id a

theorem Keeps.logged {c : Controller} {i : Nat} {s : Step Progress} (h : Keeps c i s) (log : List Log.Event) :
    Keeps c i { s with effects := log.map .log ++ s.effects } := by
  refine ⟨?_, h.store, h.sent, h.pending⟩
  rw [requests_append, requests_log, h.requests]
  rfl

end Keeps

/-- What polling exchange number `i` comes to for the transport; `fresh` is there for a session without an id. -/
inductive Handed (c : Controller) (fresh : SessionId) (i : Nat) (p : Pending) (s : Step Progress) : Prop
  /-- It was started before, or is over: nothing more is handed over. -/
  | later (started : p.phase ≠ .unstarted) (keeps : Keeps c i s)
  /-- There is no id to be had for it. -/
  | refused {e : Session.Error} (unstarted : p.phase = .unstarted)
      (established : Established c.config.sessionKey fresh c.store (.error e) s.state.store)
      (result : s.result = .failed (.session "resolve-session-id" e)) (keeps : Keeps c i s)
      (atEnd : s.state.pending = (c.setPhase i .gone).pending)
  /-- Its one request is handed over. -/
  | sent {session : SessionId} {φ : Phase} (unstarted : p.phase = .unstarted)
      (established : Established c.config.sessionKey fresh c.store (.ok session) s.state.store)
      (requests : Effect.requests s.effects = [⟨c.config.agentName, p.input, session⟩])
      (sent : s.state.sent = c.sent + 1)
      (phase : φ = .waiting c.sent ⟨c.config.agentName, p.input, session⟩ ∨ φ = .gone)
      (pending : s.state.pending = (c.setPhase i φ).pending)

section Handed
variable {c : Controller} {i : Nat} {p : Pending} {fresh : SessionId}
  (answer : Nat → Exchange.Request → Option Exchange.Arrival)

/-- Without an id the exchange is over at once. -/
theorem handed_refused {e : Session.Error} (hu : p.phase = .unstarted)
    (hs : Established c.config.sessionKey fresh c.store (.error e) c.store) (log : List Log.Event) :
    let s := c.complete i p.exchange (.failure (.session "resolve-session-id" e))
    Handed c fresh i p { s with effects := log.map .log ++ s.effects } := by
  intro s
  have hk : Keeps c i s := complete_keeps c i p.exchange _
  refine .refused hu ?_ rfl (hk.logged log) (complete_pending c i p.exchange _)
  rw [hk.store]
  exact hs

/-- With an id the request is handed over, whatever comes of it. -/
theorem handed_sent {store : Session.Store} {session : SessionId} (hu : p.phase = .unstarted)
    (hs : Established c.config.sessionKey fresh c.store (.ok session) store) (log : List Log.Event) :
    let request : Exchange.Request := ⟨c.config.agentName, p.input, session⟩
    let s := ({ c with store, sent := c.sent + 1 }.setPhase i (.waiting c.sent request)).resume answer i p.exchange
      c.sent request
    Handed c fresh i p { s with effects := log.map .log ++ .post c.sent request :: s.effects } := by
  intro request s
  have hk : Keeps _ i s := resume_keeps _ i p.exchange answer c.sent request
  have hreq : Effect.requests (log.map .log ++ .post c.sent request :: s.effects) = [request] := by
    rw [List.append_cons, requests_append, requests_append, requests_log, hk.requests]
    rfl
  have hstored : Established c.config.sessionKey fresh c.store (.ok session) s.state.store := by
    rw [hk.store]
    exact hs
  rcases hk.pending with hp | hp
  · exact .sent hu hstored hreq hk.sent (.inl rfl) hp
  · rw [setPhase_setPhase] at hp
    exact .sent hu hstored hreq hk.sent (.inr rfl) hp

/-- A first polling asks for the session's id, and hands the request over when it has one. -/
theorem begin_handed (fresh : SessionId) (hu : p.phase = .unstarted) :
    Handed c fresh i p (c.begin fresh answer i p) := by
  unfold Controller.begin
  have hspec := Session.Identity.establish_spec c.config.sessionKey fresh c.store
  generalize Session.Identity.establish c.config.sessionKey fresh c.store = o at hspec
  obtain ⟨result, store, log⟩ := o
  dsimp only at hspec ⊢
  cases result with
  | ok session => exact handed_sent answer hu hspec log
  | error e =>
    obtain rfl := hspec.store_eq
    exact handed_refused hu hspec log

theorem poll_handed (fresh : SessionId) (hp : c.pending[i]? = some p) :
    Handed c fresh i p (c.poll fresh answer i) := by
  unfold poll
  rw [hp]
  dsimp only
  cases hphase : p.phase with
  | gone => exact .later (by rw [hphase]; exact Phase.noConfusion) ⟨rfl, rfl, rfl, .inl rfl⟩
  | unstarted => exact begin_handed answer fresh hphase
  | waiting n request =>
    exact .later (by rw [hphase]; exact Phase.noConfusion) (resume_keeps c i p.exchange answer n request)

end Handed

/-- Whatever polling comes to, the exchange is started afterwards; while it waits, it does so for its own request. -/
theorem Handed.phase {c : Controller} {fresh : SessionId} {i : Nat} {p : Pending} {s : Step Progress}
    (h : Handed c fresh i p s)
    (hp : c.pending[i]? = some p) :
    ∃ φ, φ ≠ .unstarted ∧ s.state.pending = (c.setPhase i φ).pending ∧
      s.state.sent = c.sent + (requests s.effects).length ∧
      ∀ n q, φ = .waiting n q → p.phase = φ ∨ n = c.sent ∧ requests s.effects = [q] := by
  cases h with
  | later started hk =>
    rw [hk.requests]
    rcases hk.pending with hpending | hpending
    · exact ⟨p.phase, started, hpending.trans (setPhase_self c i hp).symm, hk.sent, fun _ _ _ => .inl rfl⟩
    · exact ⟨.gone, Phase.noConfusion, hpending, hk.sent, fun _ _ hφ => Phase.noConfusion hφ⟩
  | refused hu hs result hk atEnd =>
    rw [hk.requests]
    exact ⟨.gone, Phase.noConfusion, atEnd, hk.sent, fun _ _ hφ => Phase.noConfusion hφ⟩
  | sent hu hs hreq hsent hphase hpending =>
    rw [hreq]
    rcases hphase with rfl | rfl
    · refine ⟨_, Phase.noConfusion, hpending, hsent, fun n q hφ => .inr ?_⟩
      obtain ⟨rfl, rfl⟩ := Phase.waiting.inj hφ
      exact ⟨rfl, rfl⟩
    · exact ⟨.gone, Phase.noConfusion, hpending, hsent, fun _ _ hφ => Phase.noConfusion hφ⟩

end Parley.Controller

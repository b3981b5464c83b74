import Parley.Proofs.Controller.Telling
import Parley.Proofs.Exchange.Alike
import Parley.Proofs.Exchange.Transport
import Parley.Proofs.Host.Heard
import Parley.Proofs.Host.Run

/-!
# Runs that differ in what is told of answers

* `Turn.found?`, `Turn.Ends`, `ends_found` : the answer that polling finds, and how the exchange ends with it;
* `Run.Retells` : the same is done, and the same texts come back, with any statuses and over any transports;
* `Turn.Retold`, `Run.retold` : every turn comes to the same, but for what is told of the answer.
-/

namespace Parley

open Controller (Pending Reply)
open Exchange (Answered Arrival Broken Prepared Retold Script)

namespace Host

/-- The same is done; what comes back is alike. -/
inductive Move.Alike : Move → Move → Prop
  | same (m : Move) : Alike m m
  | release (n : Nat) {a a' : Arrival} (h : Retold a a') : Alike (.release n a) (.release n a')
  | prepare {p p' : Prepared Arrival} (h : p.Alike Retold p') : Alike (.prepare p) (.prepare p')

/-- One chat in the same surroundings, but for the answers that will come or have come. -/
structure Alike (h h' : Host) : Prop where
  rest : h' = { h with script := h'.script }
  script : h.script.Alike Retold h'.script

end Host

namespace Turn

variable {t t' : Turn Host Host.Move}

def found? (t : Turn Host Host.Move) : Option Arrival := t.asked?.bind fun q => t.state.script.answer? q.1

theorem ended?_found {a : Arrival} (h : t.found? = some a) :
    ∃ p, t.polled? = some p ∧ t.ended? = some (p.exchange, t.before.returns p.exchange a.result) := by
  obtain ⟨⟨n, q⟩, hq, ha⟩ := Option.bind_eq_some_iff.mp h
  obtain ⟨k, move⟩ : ∃ k, t.move = .poll k := by
    unfold asked? at hq
    split at hq
    · next k move => exact ⟨k, move⟩
    · exact nomatch hq
  have hasked := hq
  rw [asked?_poll move] at hasked
  obtain ⟨p, hp, -⟩ := Option.bind_eq_some_iff.mp hasked
  refine ⟨p, ?_, ?_⟩
  · unfold polled?
    rw [move]
    exact hp
  · rw [ended?_eq move hp hq, ha]
    rfl

/-- How the exchange ends for which this answer is found. -/
structure Ends (t : Turn Host Host.Move) (a : Arrival) (p : Pending) : Prop where
  polled : t.polled? = some p
  /-- JSON of any status is delivered as a reply. -/
  delivered : ∀ url status body v, Answered url status body a → Json.Value.parse body = .ok v → t.ended? =
    some (p.exchange, .ok ⟨p.exchange, Exchange.replyText v, t.before.renderer.render (Exchange.replyText v)⟩)
  /-- No other text is, of whatever status. -/
  undecoded : ∀ url status body details, Answered url status body a → Json.Value.parse body = .error details →
    t.ended? = some (p.exchange, .error (.decode "decode-chat-response" details))
  /-- And what is no whole response is no reply. -/
  lost : ∀ url, Broken url a → ∃ stage details, t.ended? = some (p.exchange, .error (.transport stage url details))

theorem ends_found {a : Arrival} (h : t.found? = some a) : ∃ p, t.Ends a p := by
  obtain ⟨p, polled, ended⟩ := ended?_found h
  refine ⟨p, polled, fun url status body v ha hv => ?_, fun url status body details ha hd => ?_, fun url ha => ?_⟩
  · rw [ended, ha.arrival_eq, Arrival.ofResponse, Exchange.decodeBody, hv]
    rfl
  · rw [ended, ha.arrival_eq, Arrival.ofResponse, Exchange.decodeBody, hd]
    rfl
  · obtain ⟨stage, details, hresult⟩ := ha.transport
    refine ⟨stage, details, ?_⟩
    rw [ended, hresult]
    rfl

/-- A turn comes to the same, but for what is told of the answer that it finds. -/
structure Retold (t t' : Turn Host Host.Move) : Prop where
  found : Option.Rel Exchange.Retold t.found? t'.found?
  answer : t'.outcome.answer = t.outcome.answer
  chat : t'.after = t.after
  effects : ∃ before after, t.outcome.effects = before ++ Controller.tidings t.found? ++ after ∧
    t'.outcome.effects = before ++ Controller.tidings t'.found? ++ after

section Step
variable {h h' : Host}

/-- A turn in which nobody looks for an answer. -/
theorem retold_still {m m' : Host.Move} (found : found? ⟨h, m⟩ = none) (found' : found? ⟨h', m'⟩ = none)
    (answer : (h'.step m').answer = (h.step m).answer) (chat : (h'.step m').host.chat = (h.step m).host.chat)
    (effects : (h'.step m').effects = (h.step m).effects) : Retold ⟨h, m⟩ ⟨h', m'⟩ := by
  refine ⟨?_, answer, chat, (h.step m).effects, [], ?_, ?_⟩
  · rw [found, found']
    exact .none
  · rw [found]
    exact ((List.append_nil _).trans (List.append_nil _)).symm
  · rw [found']
    exact effects.trans ((List.append_nil _).trans (List.append_nil _)).symm

theorem release_retold (hh : h.Alike h') (n : Nat) {a a' : Arrival} (ha : Exchange.Retold a a') :
    Retold ⟨h, .release n a⟩ ⟨h', .release n a'⟩ ∧ (h.next (.release n a)).Alike (h'.next (.release n a')) := by
  obtain ⟨rest, script⟩ := hh
  have hr := script.release? n ha
  have hstep : ∀ (h : Host) (a : Arrival), h.step (.release n a) = (h.script.release? n a).elim ⟨.found false, h, []⟩
      fun script => ⟨.found true, { h with script }, []⟩ := fun h a => by
    rw [Host.step]
    cases h.script.release? n a <;> rfl
  have hnext : ∀ (h : Host) (a : Arrival), h.next (.release n a) = (h.step (.release n a)).host := fun _ _ => rfl
  generalize hx : h.script.release? n a = x, hx' : h'.script.release? n a' = x' at hr
  have hs := hstep h a
  have hs' := hstep h' a'
  rw [hx] at hs
  rw [hx'] at hs'
  rw [hnext, hnext]
  cases hr with
  | none =>
    rw [Option.elim_none] at hs hs'
    refine ⟨retold_still rfl rfl ?_ ?_ ?_, ?_⟩ <;> rw [hs, hs']
    · rw [rest]
    · exact ⟨rest, script⟩
  | some hscript =>
    rw [Option.elim_some] at hs hs'
    refine ⟨retold_still rfl rfl ?_ ?_ ?_, ?_⟩ <;> rw [hs, hs']
    · rw [rest]
    · exact ⟨by rw [rest], hscript⟩

theorem prepare_retold (hh : h.Alike h') {p p' : Prepared Arrival} (hp : p.Alike Exchange.Retold p') :
    Retold ⟨h, .prepare p⟩ ⟨h', .prepare p'⟩ ∧ (h.next (.prepare p)).Alike (h'.next (.prepare p')) := by
  obtain ⟨rest, script⟩ := hh
  refine ⟨retold_still rfl rfl rfl ?_ rfl, ?_, script.prepare hp⟩
  · rw [rest]
    rfl
  · rw [rest]
    rfl

/-- The host after the chat used a fresh id, and an answer if it sent a request. -/
theorem host_consume {α : Type} (h : Host) (s : Controller.Step α) (f : α → Host.Answer) :
    (Host.consume (h.outcome s f)).host =
      ⟨s.state, if Host.posts s.effects then h.script.take else h.script, h.supply.advance, h.keys⟩ := by
  unfold Host.consume
  dsimp only
  show (if Host.posts s.effects then _ else _) = _
  split <;> rfl

theorem next_poll (h : Host) (k : Nat) :
    let s := h.chat.poll h.supply.fresh (fun n _ => h.script.answer? n) k
    h.next (.poll k) = ⟨s.state, if Host.posts s.effects then h.script.take else h.script, h.supply.advance,
      if h.startsExchange k then h.chat.config.sessionKey :: h.keys else h.keys⟩ := by
  unfold Host.next Host.step
  dsimp only
  rw [host_consume]
  cases h.startsExchange k <;> rfl

/-- What is told of an answer has nothing to do with requests. -/
theorem posts_tidings (before after : List Controller.Effect) (a : Option Arrival) :
    Host.posts (before ++ Controller.tidings a ++ after) = (Host.posts before || Host.posts after) := by
  have hlog : Host.posts (Controller.tidings a) = false := by
    rw [Host.posts, Controller.tidings, List.any_map]
    exact List.any_eq_false.mpr fun _ _ => Bool.false_ne_true
  have happend : ∀ es fs, Host.posts (es ++ fs) = (Host.posts es || Host.posts fs) := fun _ _ => List.any_append
  rw [happend, happend, hlog, Bool.or_false]

theorem found?_poll (h : Host) (k : Nat) :
    found? ⟨h, .poll k⟩ = h.chat.heard? k h.supply.fresh fun n _ => h.script.answer? n := rfl

theorem taken_alike {s s' : Script Arrival} (h : s.Alike Exchange.Retold s') (posts : Bool) :
    (if posts then s.take else s).Alike Exchange.Retold (if posts then s'.take else s') := by
  cases posts with
  | false => exact h
  | true => exact h.take

theorem found?_retold (hh : h.Alike h') (k : Nat) :
    Option.Rel Exchange.Retold (found? ⟨h, .poll k⟩) (found? ⟨h', .poll k⟩) := by
  obtain ⟨rest, script⟩ := hh
  rw [found?_poll, found?_poll, rest]
  unfold Controller.heard?
  cases h.chat.asked? k h.supply.fresh with
  | none => exact .none
  | some q => exact script.answer? q.1

theorem found?_tells (hh : h.Alike h') (k : Nat) :
    Controller.Step.Tells (found? ⟨h, .poll k⟩) (found? ⟨h', .poll k⟩)
      (h.chat.poll h.supply.fresh (fun n _ => h.script.answer? n) k)
      (h'.chat.poll h'.supply.fresh (fun n _ => h'.script.answer? n) k) := by
  have hsame : Option.Rel Controller.SameResult (found? ⟨h, .poll k⟩) (found? ⟨h', .poll k⟩) := by
    have hfound := found?_retold hh k
    generalize found? ⟨h, .poll k⟩ = x, found? ⟨h', .poll k⟩ = x' at hfound
    cases hfound with
    | none => exact .none
    | some hr => exact .some hr.result
  rw [found?_poll, found?_poll, hh.rest] at hsame ⊢
  exact Controller.poll_tells hsame

theorem poll_retold (hh : h.Alike h') (k : Nat) :
    Retold ⟨h, .poll k⟩ ⟨h', .poll k⟩ ∧ (h.next (.poll k)).Alike (h'.next (.poll k)) := by
  have hs := found?_tells hh k
  have hstep := step_poll h k
  have hstep' := step_poll h' k
  have hnext := next_poll h k
  have hnext' := next_poll h' k
  dsimp only at hstep hstep' hnext hnext'
  generalize h.chat.poll h.supply.fresh (fun n _ => h.script.answer? n) k = s at hs hstep hnext
  generalize h'.chat.poll h'.supply.fresh (fun n _ => h'.script.answer? n) k = s' at hs hstep' hnext'
  obtain ⟨chat, effects, answer⟩ := hstep
  obtain ⟨chat', effects', answer'⟩ := hstep'
  cases hs with
  | intro result state before after =>
    dsimp only at *
    refine ⟨⟨found?_retold hh k, answer'.trans answer.symm, chat'.trans chat.symm, before, after, effects, effects'⟩,
      ?_⟩
    -- whether a request was sent does not depend on what is told, so both scripts move on together
    rw [posts_tidings] at hnext hnext'
    rw [hnext, hnext']
    refine ⟨?_, taken_alike hh.script _⟩
    rw [hh.rest]
    rfl

theorem sessionId_retold (hh : h.Alike h') :
    Retold ⟨h, .sessionId⟩ ⟨h', .sessionId⟩ ∧ (h.next .sessionId).Alike (h'.next .sessionId) := by
  obtain ⟨rest, script⟩ := hh
  have hchat : ∀ h : Host, (h.step .sessionId).host.chat = (h.chat.sessionId h.supply.fresh).state :=
    fun h => consume_chat _
  have hnext : ∀ h : Host, h.next .sessionId = ⟨(h.chat.sessionId h.supply.fresh).state,
      if Host.posts (h.chat.sessionId h.supply.fresh).effects then h.script.take else h.script, h.supply.advance,
      h.chat.config.sessionKey :: h.keys⟩ := fun h => host_consume h.ask _ _
  refine ⟨retold_still rfl rfl ?_ ?_ ?_, ?_⟩
  · rw [rest]
    rfl
  · rw [hchat, hchat, rest]
  · rw [rest]
    rfl
  · rw [hnext, hnext, rest]
    exact ⟨rfl, taken_alike script _⟩

theorem same_retold (hh : h.Alike h') (m : Host.Move) :
    Retold ⟨h, m⟩ ⟨h', m⟩ ∧ (h.next m).Alike (h'.next m) := by
  cases m with
  | poll k => exact poll_retold hh k
  | release n a => exact release_retold hh n (.same a)
  | prepare p => exact prepare_retold hh (.refl .same p)
  | sessionId => exact sessionId_retold hh
  | _ =>
    obtain ⟨rest, script⟩ := hh
    generalize h'.script = script' at rest script
    subst rest
    exact ⟨retold_still rfl rfl rfl rfl rfl, rfl, script⟩

end Step

/-- What comes of a turn does not depend on what is told of answers. -/
theorem retold (hh : t.state.Alike t'.state) (hm : t.move.Alike t'.move) :
    Retold t t' ∧ (t.state.next t.move).Alike (t'.state.next t'.move) := by
  obtain ⟨h, m⟩ := t
  obtain ⟨h', m'⟩ := t'
  have hh : h.Alike h' := hh
  cases hm with
  | release n ha => exact release_retold hh n ha
  | prepare hp => exact prepare_retold hh hp
  | same => exact same_retold hh m

end Turn

/-! ## Runs -/

namespace Host.Run

/-- A run is made again; what comes back is alike. -/
structure Retells (r r' : Run) : Prop where
  start : r' = { r with script := r'.script, moves := r'.moves }
  script : r.script.Alike Retold r'.script
  moves : List.Forall₂ Move.Alike r.moves r'.moves

theorem retold {r r' : Run} (h : r.Retells r') : List.Forall₂ Turn.Retold r.turns r'.turns ∧ r'.chat = r.chat := by
  have hbegin : r.begin.Alike r'.begin := by
    refine ⟨?_, h.script⟩
    rw [h.start]
    rfl
  obtain ⟨hturns, hstates⟩ := Turn.lockstep next (R := Host.Alike) (fun _ _ => Turn.retold) hbegin
    (Turn.forall₂_list next h.moves r.begin r'.begin)
  have hfinish : Host.Alike r.finish r'.finish := Turn.finish_of_states next hstates
  refine ⟨hturns, ?_⟩
  show r'.finish.chat = r.finish.chat
  rw [hfinish.rest]

end Host.Run

end Parley

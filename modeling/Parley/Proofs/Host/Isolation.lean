import Parley.Proofs.Controller.Apart
import Parley.Proofs.Host.Accounts
import Parley.Proofs.Host.Heard
import Parley.Proofs.Host.History

/-!
# Exchanges do not disturb each other

The same steps are made twice, and what arrives for exchange `i` is not the same.

* `Turn.Again`, `Run.Replays` : a step and a run that are repeated like that;
* `Turn.Apart` : what comes of a repeated step: the same, unless it ends exchange `i`; `Turn.apart`;
* `Run.isolated` : nothing but the reply to exchange `i`, its state and its notice is different, at any time.
-/

namespace Parley

open Controller (Pending Reply Deed)
open Transcript (Entry)

namespace Host

/-- The moves of the transport, of which a chat takes no notice. -/
def Move.isTransport : Move → Bool
  | .release _ _ | .prepare _ => true
  | _ => false

/-- Two hosts whose chats differ in what became of exchange `i`; their transports may be any. -/
structure Apart (i : Exchange.Id) (h h' : Host) : Prop where
  chat : h.chat.Apart i h'.chat
  supply : h'.supply = h.supply

end Host

namespace Turn

/-- What polling exchange `i` handed over. -/
def requestsOf (t : Turn Host Host.Move) (i : Exchange.Id) : List Exchange.Request :=
  if t.polled?.map Pending.exchange = some i then t.requests else []

/-- A step is made again. What has arrived is the same, unless it is exchange `i` that looks for it: then it may be
another answer, but not one where there was none. -/
structure Again (i : Exchange.Id) (t t' : Turn Host Host.Move) : Prop where
  move : t'.move = t.move ∨ t.move.isTransport = true ∧ t'.move.isTransport = true
  answer : ∀ n q, t.asked? = some (n, q) → t'.state.script.answer? n = t.state.script.answer? n ∨
    t.polled?.map Pending.exchange = some i ∧ (t'.state.script.answer? n).isSome = (t.state.script.answer? n).isSome

/-- Exchange `i` comes to its end: there is a reply to it, or one notice. -/
structure Concludes (i : Exchange.Id) (t : Turn Host Host.Move) : Prop where
  ended : ∃ x, t.ended? = some (i, x) ∧
    t.notices = match x with
      | .ok _ => []
      | .error _ => [t.before.config.failureMessage]
  rendered : ∀ e ∈ t.rendered, e.replies i = true

/-- What comes of a step that is made again. -/
inductive Apart (i : Exchange.Id) (t t' : Turn Host Host.Move) : Prop
  /-- The same. -/
  | alike (move : t'.move = t.move) (polled : t'.polled? = t.polled?) (answer : t'.outcome.answer = t.outcome.answer)
      (effects : List.Forall₂ Controller.Effect.Like t.outcome.effects t'.outcome.effects)
  /-- Nothing, since the chat takes no part in it. -/
  | transport (move : t.move.isTransport = true) (move' : t'.move.isTransport = true)
      (effects : t.outcome.effects = []) (effects' : t'.outcome.effects = [])
  /-- Exchange `i` ends on both sides. -/
  | concludes (move : t'.move = t.move) (polled : t'.polled? = t.polled?) (here : t.Concludes i)
      (there : t'.Concludes i) (requests : t'.requests = t.requests)

variable {i : Exchange.Id} {t t' : Turn Host Host.Move}

/-- Whoever comes to its end has its reply shown, or is told of. -/
theorem concludes {x : Except Exchange.Error Reply} (h : t.ended? = some (i, x)) : t.Concludes i := by
  obtain ⟨d, hd⟩ := t.comes
  have hsaid : t.rendered.map Entry.said = d.said t.before := hd.does.said
  have hnotices : t.notices = d.notices t.before := hd.does.notices
  have hended := h
  rw [hd.ended] at h
  have hreplies : ∀ e ∈ t.rendered, e.said ∈ d.said t.before := fun e he => hsaid ▸ List.mem_map_of_mem he
  cases d with
  | quiet | scrolled | opened => exact nomatch h
  | delivered id body =>
    obtain ⟨rfl, rfl⟩ := Prod.mk.inj (Option.some.inj h)
    refine ⟨⟨_, hended, hnotices⟩, fun e he => ?_⟩
    have hs := hreplies e he
    simp only [Deed.said, List.mem_cons, List.not_mem_nil, or_false] at hs
    obtain ⟨n, role, body, exchange⟩ := e
    rcases hs with hs | hs <;> cases hs <;> simp [Entry.replies]
  | failed id e =>
    obtain ⟨rfl, rfl⟩ := Prod.mk.inj (Option.some.inj h)
    exact ⟨⟨_, hended, hnotices⟩, fun e he => absurd (hreplies e he) List.not_mem_nil⟩

/-! ## One step -/

section Step
variable {h h' : Host} {α : Type}

structure Makes (h : Host) (m : Host.Move) (s : Controller.Step α) (f : α → Host.Answer) : Prop where
  chat : (h.step m).host.chat = s.state
  effects : (h.step m).effects = s.effects
  answer : (h.step m).answer = f s.result

theorem made_apart {m : Host.Move} {s s' : Controller.Step α} {f : α → Host.Answer} (made : Makes h m s f)
    (made' : Makes h' m s' f) (hs : Controller.Step.Apart i s s') (polled : polled? ⟨h', m⟩ = polled? ⟨h, m⟩)
    (supply : (h'.next m).supply = (h.next m).supply) :
    Apart i ⟨h, m⟩ ⟨h', m⟩ ∧ Host.Apart i (h.next m) (h'.next m) := by
  refine ⟨.alike rfl polled ?_ ?_, ?_, supply⟩
  · show (h'.step m).answer = (h.step m).answer
    rw [made.answer, made'.answer, hs.result]
  · show List.Forall₂ _ (h.step m).effects (h'.step m).effects
    rw [made.effects, made'.effects]
    exact hs.effects
  · show (h.step m).host.chat.Apart i (h'.step m).host.chat
    rw [made.chat, made'.chat]
    exact hs.state

theorem done_apart {m : Host.Move} {s s' : Controller.Step Unit} (made : Makes h m s fun _ => .done)
    (made' : Makes h' m s' fun _ => .done) (hs : Controller.Step.Apart i s s')
    (polled : polled? ⟨h', m⟩ = polled? ⟨h, m⟩)
    (supply : (h'.next m).supply = (h.next m).supply) :
    Apart i ⟨h, m⟩ ⟨h', m⟩ ∧ Host.Apart i (h.next m) (h'.next m) := made_apart made made' hs polled supply

theorem consume_supply (o : Host.Outcome) : (Host.consume o).host.supply = o.host.supply.advance := by
  unfold Host.consume
  dsimp only
  split <;> rfl

theorem step_transport {m : Host.Move} (hm : m.isTransport = true) (h : Host) :
    (h.step m).host.chat = h.chat ∧ (h.step m).host.supply = h.supply ∧ (h.step m).effects = [] := by
  cases m with
  | release n a =>
    unfold Host.step
    dsimp only
    split <;> exact ⟨rfl, rfl, rfl⟩
  | prepare => exact ⟨rfl, rfl, rfl⟩
  | _ => exact nomatch hm

theorem transport_apart (hh : Host.Apart i h h') {m m' : Host.Move} (hm : m.isTransport = true)
    (hm' : m'.isTransport = true) : Apart i ⟨h, m⟩ ⟨h', m'⟩ ∧ Host.Apart i (h.next m) (h'.next m') := by
  obtain ⟨chat, supply, effects⟩ := step_transport hm h
  obtain ⟨chat', supply', effects'⟩ := step_transport hm' h'
  refine ⟨.transport hm hm' effects effects', ?_, ?_⟩
  · show (h.step m).host.chat.Apart i (h'.step m').host.chat
    rw [chat, chat']
    exact hh.chat
  · show (h'.step m').host.supply = (h.step m).host.supply
    rw [supply, supply', hh.supply]

theorem next_poll_supply (h : Host) (k : Nat) : (h.next (.poll k)).supply = h.supply.advance := by
  unfold Host.next Host.step
  dsimp only
  rw [consume_supply]
  split <;> rfl

theorem poll_makes (h : Host) (k : Nat) {fresh : SessionId} (hf : h.supply.fresh = fresh) :
    Makes h (.poll k) (h.chat.poll fresh (fun n _ => h.script.answer? n) k) .progress := by
  subst hf
  obtain ⟨chat, effects, answer⟩ := step_poll h k
  exact ⟨chat, effects, answer⟩

theorem concludes_poll {k : Nat} {p : Pending} (hp : h.chat.pending[k]? = some p)
    (ends : (h.chat.poll h.supply.fresh (fun n _ => h.script.answer? n) k).result.returned?.isSome = true) :
    Concludes p.exchange ⟨h, .poll k⟩ := by
  obtain ⟨x, hx⟩ := Option.isSome_iff_exists.mp ends
  have hended : ended? ⟨h, .poll k⟩ = _ := ended?_poll rfl hp
  refine concludes (x := x) ?_
  rw [hended]
  exact congrArg (Option.map _) hx

/-- When the same has arrived, or exchange `i` looks for its answer, polling comes to the same or ends exchange `i`. -/
theorem poll_apart (hh : Host.Apart i h h') (hs : h.chat.talk.Sound) (k : Nat)
    (ha : Again i ⟨h, .poll k⟩ ⟨h', .poll k⟩) :
    Apart i ⟨h, .poll k⟩ ⟨h', .poll k⟩ ∧ Host.Apart i (h.next (.poll k)) (h'.next (.poll k)) := by
  have made := poll_makes h k rfl
  have made' := poll_makes h' k (congrArg Session.Supply.fresh hh.supply)
  have hpolled : polled? ⟨h', .poll k⟩ = polled? ⟨h, .poll k⟩ := congrArg (·[k]?) hh.chat.pending_eq
  have hsupply : (h'.next (.poll k)).supply = (h.next (.poll k)).supply := by
    rw [next_poll_supply, next_poll_supply, hh.supply]
  rcases Controller.poll_apart hh.chat hs k h.supply.fresh ha.answer with hs | ⟨hk, hparted⟩
  · exact made_apart made made' hs hpolled hsupply
  · obtain ⟨p, hp, rfl⟩ := Option.map_eq_some_iff.mp hk
    have hp' : h'.chat.pending[k]? = some p := by
      rw [hh.chat.pending_eq]
      exact hp
    have ends' := hparted.ends'
    rw [← hh.supply] at ends'
    refine ⟨.concludes rfl hpolled (concludes_poll hp hparted.ends) (concludes_poll hp' ends') ?_, ?_, hsupply⟩
    · show Controller.Effect.requests (h'.step (.poll k)).effects =
        Controller.Effect.requests (h.step (.poll k)).effects
      rw [made.effects, made'.effects]
      exact hparted.requests
    · show (h.step (.poll k)).host.chat.Apart _ (h'.step (.poll k)).host.chat
      rw [made.chat, made'.chat]
      exact hparted.state

theorem sessionId_apart (hh : Host.Apart i h h') :
    Apart i ⟨h, .sessionId⟩ ⟨h', .sessionId⟩ ∧ Host.Apart i (h.next .sessionId) (h'.next .sessionId) := by
  have hs := Controller.sessionId_apart hh.chat h.supply.fresh
  have made' : Makes h' .sessionId (h'.chat.sessionId h.supply.fresh) .session := by
    rw [← hh.supply]
    exact ⟨consume_chat _, rfl, rfl⟩
  refine made_apart ⟨consume_chat _, rfl, rfl⟩ made' hs rfl ?_
  show (Host.consume _).host.supply = (Host.consume _).host.supply
  rw [consume_supply, consume_supply]
  exact congrArg Session.Supply.advance hh.supply

end Step

/-- A step that is made again comes to the same, or it ends exchange `i`; the chats do not come further apart. -/
theorem apart (hh : Host.Apart i t.state t'.state) (hs : t.before.talk.Sound) (ha : Again i t t') :
    Apart i t t' ∧ Host.Apart i (t.state.next t.move) (t'.state.next t'.move) := by
  obtain ⟨h, m⟩ := t
  obtain ⟨h', m'⟩ := t'
  rcases ha.move with move | ⟨hm, hm'⟩
  · obtain rfl : m' = m := move
    cases m' with
    | poll k => exact poll_apart hh hs k ha
    | send => exact made_apart ⟨rfl, rfl, rfl⟩ ⟨rfl, rfl, rfl⟩ (Controller.send_apart hh.chat) rfl hh.supply
    | key k => exact made_apart ⟨rfl, rfl, rfl⟩ ⟨rfl, rfl, rfl⟩ (Controller.key_apart hh.chat k) rfl hh.supply
    | drop k => exact made_apart ⟨rfl, rfl, rfl⟩ ⟨rfl, rfl, rfl⟩ (Controller.drop_apart hh.chat k) rfl hh.supply
    | resetSession =>
      exact made_apart ⟨rfl, rfl, rfl⟩ ⟨rfl, rfl, rfl⟩ (Controller.resetSession_apart hh.chat) rfl hh.supply
    | sessionId => exact sessionId_apart hh
    | release | prepare => exact transport_apart hh rfl rfl
    | load => exact done_apart ⟨rfl, rfl, rfl⟩ ⟨rfl, rfl, rfl⟩ (Controller.load_apart hh.chat) rfl hh.supply
    | type text => exact done_apart ⟨rfl, rfl, rfl⟩ ⟨rfl, rfl, rfl⟩ (Controller.type_apart hh.chat text) rfl hh.supply
    | resize => exact done_apart ⟨rfl, rfl, rfl⟩ ⟨rfl, rfl, rfl⟩ (Controller.view_apart hh.chat _ _) rfl hh.supply
    | refuse refusal =>
      have hs := Controller.store_apart hh.chat fun s => { s with refusal }
      exact done_apart ⟨rfl, rfl, rfl⟩ ⟨rfl, rfl, rfl⟩ hs rfl hh.supply
    | write key value =>
      have hs := Controller.store_apart hh.chat fun s => { s with entries := s.entries.put key value }
      exact done_apart ⟨rfl, rfl, rfl⟩ ⟨rfl, rfl, rfl⟩ hs rfl hh.supply
  · exact transport_apart hh hm hm'

/-! ## What is seen of an exchange -/

theorem Apart.requestsOf_eq (h : Apart i t t') (j : Exchange.Id) : t'.requestsOf j = t.requestsOf j := by
  cases h with
  | alike _ polled _ effects =>
    rw [requestsOf, requestsOf, polled]
    exact congrArg (ite _ · _) (filterMap_eq_of_forall₂ (fun _ _ h => h.request?) effects)
  | transport move move' effects effects' =>
    have hr : t.requests = [] := congrArg Controller.Effect.requests effects
    have hr' : t'.requests = [] := congrArg Controller.Effect.requests effects'
    rw [requestsOf, requestsOf, hr, hr', ite_self, ite_self]
  | concludes _ polled _ _ requests => rw [requestsOf, requestsOf, polled, requests]

theorem Concludes.noticesOf_eq (h : t.Concludes i) {j : Exchange.Id} (hj : j ≠ i) : t.noticesOf j = [] := by
  obtain ⟨x, hx, -⟩ := h.ended
  obtain ⟨d, hd⟩ := t.comes
  rw [hd.ended] at hx
  rw [Host.noticesOf_comes hd]
  cases d with
  | quiet | scrolled | opened => exact nomatch hx
  | delivered | failed =>
    obtain ⟨rfl, -⟩ := Prod.mk.inj (Option.some.inj hx)
    rw [Host.deedAccount, if_neg hj.symm]

theorem Concludes.returned?_eq (h : t.Concludes i) {j : Exchange.Id} (hj : j ≠ i) : t.returned? j = none := by
  obtain ⟨x, hx, -⟩ := h.ended
  rw [returned?, hx]
  exact if_neg hj.symm

theorem Apart.noticesOf_eq (h : Apart i t t') {j : Exchange.Id} (hj : j ≠ i) : t'.noticesOf j = t.noticesOf j := by
  cases h with
  | alike _ polled _ effects =>
    rw [noticesOf, noticesOf, polled]
    exact congrArg (ite _ · _) (filterMap_eq_of_forall₂ (fun _ _ h => h.notice?) effects)
  | transport move move' effects effects' =>
    have hn : t.notices = [] := congrArg Controller.Effect.notices effects
    have hn' : t'.notices = [] := congrArg Controller.Effect.notices effects'
    rw [noticesOf, noticesOf, hn, hn', ite_self, ite_self]
  | concludes _ _ here there => rw [here.noticesOf_eq hj, there.noticesOf_eq hj]

theorem polled?_transport (h : t.move.isTransport = true) : t.polled? = none := by
  unfold polled?
  split
  · next hm =>
    rw [hm] at h
    cases h
  · rfl

theorem Apart.returned?_eq (h : Apart i t t') {j : Exchange.Id} (hj : j ≠ i) : t'.returned? j = t.returned? j := by
  cases h with
  | alike _ polled answer => rw [returned?, returned?, ended?, ended?, polled, answer]
  | transport move move' =>
    rw [returned?, returned?, ended?_of_polled? (polled?_transport move), ended?_of_polled? (polled?_transport move')]
  | concludes _ _ here there => rw [here.returned?_eq hj, there.returned?_eq hj]

end Turn

/-! ## Runs -/

namespace Host.Run

/-- A run is made again, and only what arrives for exchange `i` is another. -/
structure Replays (i : Exchange.Id) (r r' : Run) : Prop where
  start : r' = { r with script := r'.script, moves := r'.moves }
  turns : List.Forall₂ (Turn.Again i) r.turns r'.turns

/-- Exchange `i` does not disturb the others. -/
structure Isolated (i : Exchange.Id) (r r' : Run) : Prop where
  /-- Before and after every step the chats differ at most in how exchange `i` ended, and in the reply to it. -/
  chats : List.Forall₂ (Controller.Apart i) r.chats r'.chats
  /-- Every step comes to the same, but for the one that ends exchange `i`. -/
  turns : List.Forall₂ (Turn.Apart i) r.turns r'.turns
  /-- The same is handed over for every exchange, in the same steps. -/
  requests : ∀ j, r'.turns.map (·.requestsOf j) = r.turns.map (·.requestsOf j)
  notices : ∀ j, j ≠ i → r'.turns.map (·.noticesOf j) = r.turns.map (·.noticesOf j)
  returned : ∀ j, j ≠ i → r'.turns.map (·.returned? j) = r.turns.map (·.returned? j)
  /-- Exchange `i` ends at most once, and one notice is all that it can cause. -/
  once : ∀ q ∈ [r, r'], (q.turns.filterMap (·.returned? i)).length ≤ 1 ∧ (q.turns.flatMap (·.noticesOf i)).length ≤ 1

/-- Whatever arrives for exchange `i`, the other exchanges go on as they did. -/
theorem isolated {i : Exchange.Id} {r r' : Run} (h : Replays i r r') : Isolated i r r' := by
  have hbegin : Host.Apart i r.begin r'.begin := by
    rw [h.start]
    exact ⟨.intro (.refl i _) rfl, rfl⟩
  obtain ⟨hturns, hstates⟩ := Turn.lockstep next
    (R := fun h h' => h.chat.talk.Sound ∧ Host.Apart i h h') (Q := Turn.Apart i)
    (fun t t' ⟨hs, hh⟩ ha => by
      obtain ⟨hq, hnext⟩ := Turn.apart hh hs ha
      obtain ⟨d, hd⟩ := t.comes
      exact ⟨hq, hd.does.sound hs, hnext⟩)
    ⟨r.steady_begin.sound, hbegin⟩ h.turns
  have hchats : ∀ q : Run, q.chats = (Turn.states next q.begin q.moves).map Host.chat := fun q => by
    rw [Turn.states, List.map_append, List.map_map]
    rfl
  have hturns : List.Forall₂ (Turn.Apart i) r.turns r'.turns := hturns
  refine ⟨?_, hturns, fun j => ?_, fun j hj => ?_, fun j hj => ?_, fun q _ => ?_⟩
  · rw [hchats, hchats, List.forall₂_map_left_iff, List.forall₂_map_right_iff]
    exact hstates.imp fun _ _ h => h.2.chat
  · exact Turn.map_eq_of_forall₂ (fun _ _ ht => ht.requestsOf_eq j) hturns
  · exact Turn.map_eq_of_forall₂ (fun _ _ ht => ht.noticesOf_eq hj) hturns
  · exact Turn.map_eq_of_forall₂ (fun _ _ ht => ht.returned?_eq hj) hturns
  · exact (q.accounts_account i).once

def offline : Exchange.Arrival := .failure (.transport "send" "/chat" "offline")

/-- Two exchanges are run to their ends; `a` arrives for the first one, and nobody is there for the other. -/
def twoExchanges (a : Exchange.Arrival) : Run where
  config := .standard
  renderer := .plain
  store := .ofEntries []
  view := {}
  script := ⟨[.ready a], [], offline⟩
  supply := ⟨fun _ => .ofOctets (.replicate 8 0), 0⟩
  moves := [.type "hi", .send, .type "are you there?", .send, .poll 1, .poll 0]

/-- What was asked second is answered in one run and not in the other. -/
theorem isolated_twoExchanges :
    Replays 2 (twoExchanges offline) (twoExchanges ⟨[], .ok (.text "yes")⟩) ∧
      Isolated 2 (twoExchanges offline) (twoExchanges ⟨[], .ok (.text "yes")⟩) := by
  have turns : List.Forall₂ (Turn.Again 2) (twoExchanges offline).turns
      (twoExchanges ⟨[], .ok (.text "yes")⟩).turns := by
    refine .cons ⟨.inl rfl, nofun⟩ (.cons ⟨.inl rfl, nofun⟩ (.cons ⟨.inl rfl, nofun⟩ (.cons ⟨.inl rfl, nofun⟩
      (.cons ⟨.inl rfl, fun _ _ _ => .inr ⟨rfl, rfl⟩⟩ (.cons ⟨.inl rfl, fun n q hq => .inl ?_⟩ .nil)))))
    have hn : n = 1 := congrArg Prod.fst (Option.some.inj (hq.symm.trans rfl))
    rw [hn]
    rfl
  exact ⟨⟨rfl, turns⟩, isolated ⟨rfl, turns⟩⟩

end Host.Run

end Parley

import Parley.Proofs.Host.Accounts
import Parley.Proofs.Host.Heard
import Parley.Proofs.Host.History

/-!
# Schedules

A chat goes on from where a run left it: texts are sent, exchanges are polled in some order, and the backend answers
each request by what it asks for.

* `Schedule`, `Schedule.Served` : one way in which it goes on, while the store is left alone;
* `Schedule.typed`, `opened`, `started`, `ended` : the texts sent, and the exchanges made, started and ended;
* `Controller.owing?`, `Run.owes`, `Run.settles` : the request of an exchange, and what it ends with, are known
  beforehand;
* `Schedule.Along` : what has come of a schedule so far depends on those lists alone; `Schedule.along`.
-/

namespace Parley

open Controller (Deed Pending Phase Reply)
open Transcript (Entry Role Body)

namespace Host

/-- The store is left alone: no reset, no other write, and no call is refused from now on. -/
def Move.sparesStore : Move → Bool
  | .refuse _ | .write _ _ | .resetSession => false
  | _ => true

end Host

/-! ## Requests known beforehand -/

/-- The request that an exchange waits for, or will wait for when it is started. -/
def Controller.Pending.owing? (agent : String) (id : SessionId) (p : Pending) : Option Exchange.Request :=
  match p.phase with
  | .unstarted => some ⟨agent, p.input, id⟩
  | .waiting _ q => some q
  | .gone => none

namespace Turn

/-- The backend answers requests by `f`, and the store is left alone. -/
structure Served (f : Exchange.Request → Except Exchange.Error Json.Value) (t : Turn Host Host.Move) : Prop where
  spares : t.move.sparesStore = true
  answers : ∀ n q a, t.asked? = some (n, q) → t.state.script.answer? n = some a → a.result = f q

theorem requests_of_not_starts? {t : Turn Host Host.Move} (h : t.starts? = none) : t.requests = [] := by
  refine requests_of_not_due? ?_
  rw [due?, h]
  rfl

section Held
variable {t : Turn Host Host.Move} {id : SessionId} (hs : t.before.store.Holds t.before.config.sessionKey id)
include hs

theorem store_after (hm : t.move.sparesStore = true) : t.after.store = t.before.store := by
  cases t.acts with
  | submits aside chat => rw [chat, (Controller.send_keeps t.before).2.1]
  | still _ _ store => exact store
  | polls _ polled =>
    obtain ⟨k, s, -, -, hh, -, ha, -⟩ := handed polled
    rw [ha]
    cases hh with
    | later _ keeps | refused _ _ _ keeps => exact keeps.store
    | sent _ established => exact (established.held hs).2
  | drops move | loads move =>
    obtain ⟨h, m⟩ := t
    cases move
    rfl
  | refuses move | writes move | resets move =>
    rw [move] at hm
    exact nomatch hm
  | asks move chat =>
    rw [chat]
    exact ((Session.Identity.establish_spec _ _ _).held hs).2

theorem requests_of_starts? (hm : t.move.sparesStore = true) {p : Pending} (h : t.starts? = some p) :
    t.requests = [⟨t.before.config.agentName, p.input, id⟩] := by
  obtain ⟨session, hr, hid⟩ := requests_of_due? (due?_eq_some.mpr ⟨h, hs.resolves⟩)
  rw [store_after hs hm, hs.stored] at hid
  obtain rfl := Option.some.inj hid
  exact hr

/-- What is owed was owed before, unless its exchange was made just now. -/
theorem owing?_after (hm : t.move.sparesStore = true) {p : Pending} (hp : p ∈ t.after.pending) {q : Exchange.Request}
    (hq : p.owing? t.before.config.agentName id = some q) :
    (∃ p₀ ∈ t.before.pending, p₀.core = p.core ∧ p₀.owing? t.before.config.agentName id = some q) ∨
      t.opened? = some p := by
  rcases t.untouched_or_touched with ht | ⟨k, p₁, φ, ht⟩
  · rw [ht.pending, List.mem_append, Option.mem_toList] at hp
    exact hp.imp_left fun hp => ⟨p, hp, rfl, hq⟩
  · rw [ht.pending] at hp
    rcases Controller.mem_setPhase hp with ⟨j, -, hj⟩ | ⟨p₀, hp₀, rfl⟩
    · exact .inl ⟨p, List.mem_of_getElem? hj, rfl, hq⟩
    · obtain rfl := Option.some.inj (hp₀.symm.trans ht.there)
      refine .inl ⟨p₀, List.mem_of_getElem? hp₀, rfl, ?_⟩
      cases φ with
      | unstarted => exact absurd rfl ht.started
      | gone => exact nomatch hq
      | waiting n q' =>
        obtain rfl : q' = q := Option.some.inj hq
        rcases ht.waiting n q' rfl with hphase | ⟨-, hr⟩
        · rw [Pending.owing?, hphase]
        · cases hst : t.starts? with
          | none => exact nomatch hr.symm.trans (requests_of_not_starts? hst)
          | some p =>
            obtain ⟨rfl, hu⟩ := ht.starts p hst
            rw [requests_of_starts? hs hm hst] at hr
            rw [Pending.owing?, hu]
            exact congrArg some (List.cons.inj hr).1

/-- Whoever ends has got the answer to what it is owed. -/
theorem owing?_of_ended? {f : Exchange.Request → Except Exchange.Error Json.Value} (ht : t.Served f) {i : Exchange.Id}
    {x : Except Exchange.Error Reply} (h : t.ended? = some (i, x)) :
    ∃ p ∈ t.before.pending, p.exchange = i ∧
      ∃ q, p.owing? t.before.config.agentName id = some q ∧ x = t.before.returns i (f q) := by
  obtain ⟨k, p, n, q, a, move, hp, hi, hq, ha, rfl⟩ := asked?_of_ended? hs.resolves h
  refine ⟨p, List.mem_of_getElem? hp, hi, q, ?_, by rw [ht.answers n q a hq ha]⟩
  rw [asked?_poll move] at hq
  unfold Pending.owing?
  cases phase : p.phase with
  | unstarted =>
    rw [Controller.asked?_unstarted hp phase, Session.Identity.establish_stored hs.get hs.stored] at hq
    exact congrArg (Option.map Prod.snd) hq
  | waiting n' q' =>
    rw [Controller.asked?_waiting hp phase] at hq
    exact congrArg (Option.map Prod.snd) hq
  | gone =>
    rw [Controller.asked?_gone hp phase] at hq
    exact nomatch hq

end Held

/-! ## What a turn brings -/

end Turn

namespace Host

/-- What is said: who speaks, what is shown, and of which exchange it is. -/
abbrev Saying := Role × Body × Option Exchange.Id

def userSaying (label : String) (core : Exchange.Id × String) : Saying :=
  (.user, .text (Transcript.userText label core.2), some core.1)

/-- What is said when an exchange ends: its reply with an empty line after it, or nothing. -/
def replySayings (e : Exchange.Id × Except Exchange.Error Reply) : List Saying :=
  match e.2 with
  | .ok reply => [(.bot, .markup reply.markup, some e.1), (.spacer, .empty, some e.1)]
  | .error _ => []

/-- What the user is told when an exchange ends. -/
def noticesFor (message : String) (e : Exchange.Id × Except Exchange.Error Reply) : List String :=
  match e.2 with
  | .ok _ => []
  | .error _ => [message]

end Host

namespace Turn

def sayings (t : Turn Host Host.Move) : List Host.Saying := t.rendered.map Entry.said

/-- An exchange is made, or one ends, or neither. -/
inductive News (t : Turn Host Host.Move) : Prop
  | nothing (opened : t.opened? = none) (ended : t.ended? = none)
      (state : ∀ i, t.after.exchangeState? i = t.before.exchangeState? i) (said : t.sayings = [])
      (notices : t.notices = [])
  | opens {p : Pending} (opened : t.opened? = some p) (ended : t.ended? = none)
      (unknown : t.before.exchangeState? p.exchange = none)
      (state : ∀ i, t.after.exchangeState? i = if i = p.exchange then some .awaiting else t.before.exchangeState? i)
      (said : t.sayings = [Host.userSaying t.before.config.userLabel p.core]) (notices : t.notices = [])
  | ends {e : Exchange.Id × Except Exchange.Error Reply} (opened : t.opened? = none) (ended : t.ended? = some e)
      (awaiting : t.before.exchangeState? e.1 = some .awaiting)
      (state : ∀ i, t.after.exchangeState? i =
        if i = e.1 then some (Host.Run.outcomeOf e.2).state else t.before.exchangeState? i)
      (said : t.sayings = Host.replySayings e)
      (notices : t.notices = Host.noticesFor t.before.config.failureMessage e)

theorem news {t : Turn Host Host.Move} (hs : t.before.talk.Sound) : t.News := by
  obtain ⟨d, hd⟩ := t.comes
  have state : ∀ i, t.after.exchangeState? i = _ := hd.does.state? hs
  have said : t.sayings = d.said t.before := hd.does.said
  have notices : t.notices = d.notices t.before := hd.does.notices
  have opened := hd.opened
  have ended := hd.ended
  cases d with
  | quiet | scrolled => exact .nothing opened ended state said notices
  | opened p =>
    obtain ⟨rfl, -⟩ := hd.does.opened_next rfl
    exact .opens opened ended hs.numbered.state?_next state said notices
  | delivered id body | failed id e =>
    exact .ends opened ended (hd.does.settles hs rfl).1 state said notices

theorem unknown_of_opened? {t : Turn Host Host.Move} (hs : t.before.talk.Sound) {p : Pending}
    (h : t.opened? = some p) : t.before.exchangeState? p.exchange = none := by
  cases news hs with
  | nothing opened | ends opened => exact nomatch h.symm.trans opened
  | opens opened _ unknown =>
    obtain rfl := Option.some.inj (h.symm.trans opened)
    exact unknown

/-- What is said in a turn belongs to the exchange that is made, or to the one that ends. -/
theorem sayings_eq {t : Turn Host Host.Move} (hs : t.before.talk.Sound) :
    t.sayings = (t.opened?.map Pending.core).toList.map (Host.userSaying t.before.config.userLabel) ++
      t.ended?.toList.flatMap Host.replySayings := by
  cases news hs with
  | nothing opened ended _ said => rw [said, opened, ended]; rfl
  | opens opened ended _ _ said => rw [said, opened, ended]; rfl
  | ends opened ended _ _ said =>
    rw [said, opened, ended]
    exact (List.flatMap_singleton _ _).symm

theorem notices_eq {t : Turn Host Host.Move} (hs : t.before.talk.Sound) :
    t.notices = t.ended?.toList.flatMap (Host.noticesFor t.before.config.failureMessage) := by
  cases news hs with
  | nothing _ ended _ _ notices | opens _ ended _ _ _ notices => rw [notices, ended]; rfl
  | ends _ ended _ _ _ notices =>
    rw [notices, ended]
    exact (List.flatMap_singleton _ _).symm

end Turn

namespace Host

/-! ## Schedules -/

/-- One way in which a chat goes on from where a run left it, over a transport of its own. -/
structure Schedule (r : Run) where
  host : Host
  chat : host.chat = r.chat
  moves : List Move

namespace Schedule
variable {r : Run} (s : Schedule r)

def turns : List (Turn Host Move) := Turn.list next s.host s.moves

def finish : Controller := (s.moves.foldl next s.host).chat

/-- The texts that were sent, in order; blank ones are not. -/
def typed : List String := (s.turns.filterMap Turn.submitted?).filter fun text => !Text.isBlankText text

def started : List Exchange.Id := s.turns.filterMap fun t => t.starts?.map Pending.exchange

/-- The exchanges that came to their end, in order. -/
def ended : List Exchange.Id := s.turns.filterMap fun t => t.ended?.map Prod.fst

/-- The store is left alone, and the backend answers requests by `f`. -/
def Served (f : Exchange.Request → Except Exchange.Error Json.Value) : Prop := ∀ t ∈ s.turns, t.Served f

end Schedule

namespace Run
variable (r : Run) (f : Exchange.Request → Except Exchange.Error Json.Value) (id : SessionId)

def owes (core : Exchange.Id × String) : Exchange.Request :=
  ((r.chat.pending[core.1 - 1]?).bind (·.owing? r.chat.config.agentName id)).getD
    ⟨r.chat.config.agentName, core.2, id⟩

/-- What an exchange returns when it comes to its end. -/
def settles (core : Exchange.Id × String) : Except Exchange.Error Reply :=
  r.chat.returns core.1 (f (r.owes id core))

end Run

/-! ## What has come of a schedule so far -/

/-- The exchanges that turns make, with their texts. -/
def openedIn (ts : List (Turn Host Move)) : List (Exchange.Id × String) :=
  ts.filterMap fun t => t.opened?.map Pending.core

/-- The exchanges that turns start, with their texts. -/
def startedIn (ts : List (Turn Host Move)) : List (Exchange.Id × String) :=
  ts.filterMap fun t => t.starts?.map Pending.core

/-- The exchanges that end in turns, and what they return. -/
def endedIn (ts : List (Turn Host Move)) : List (Exchange.Id × Except Exchange.Error Reply) :=
  ts.filterMap Turn.ended?

/-- What turns say; those that say nothing are left out. -/
def blocksIn (ts : List (Turn Host Move)) : List (List Saying) := (ts.map Turn.sayings).filter fun b => !b.isEmpty

theorem filterMap_concat {α β : Type} (f : α → Option β) (l : List α) (a : α) :
    (l ++ [a]).filterMap f = l.filterMap f ++ (f a).toList := by
  rw [List.filterMap_append, List.filterMap_cons]
  cases f a <;> rfl

theorem perm_append_append {α : Type} (l₁ l₂ l₃ l₄ : List α) :
    (l₁ ++ l₂ ++ (l₃ ++ l₄)).Perm (l₁ ++ l₃ ++ (l₂ ++ l₄)) := by
  have h : (l₁ ++ (l₂ ++ l₃) ++ l₄).Perm (l₁ ++ (l₃ ++ l₂) ++ l₄) :=
    (List.perm_append_comm.append_left l₁).append_right l₄
  simpa only [List.append_assoc] using h

theorem openedIn_concat (ts : List (Turn Host Move)) (t : Turn Host Move) :
    openedIn (ts ++ [t]) = openedIn ts ++ (t.opened?.map Pending.core).toList := filterMap_concat _ _ _

theorem startedIn_concat (ts : List (Turn Host Move)) (t : Turn Host Move) :
    startedIn (ts ++ [t]) = startedIn ts ++ (t.starts?.map Pending.core).toList := filterMap_concat _ _ _

theorem endedIn_concat (ts : List (Turn Host Move)) (t : Turn Host Move) :
    endedIn (ts ++ [t]) = endedIn ts ++ t.ended?.toList := filterMap_concat _ _ _

theorem blocksIn_concat (ts : List (Turn Host Move)) (t : Turn Host Move) :
    blocksIn (ts ++ [t]) = blocksIn ts ++ blocksIn [t] := by
  rw [blocksIn, List.map_append, List.filter_append]
  rfl

theorem flatten_blocksIn (t : Turn Host Move) : (blocksIn [t]).flatten = t.sayings := by
  unfold blocksIn
  rw [List.map_singleton, List.filter_singleton]
  cases t.sayings with
  | nil => rfl
  | cons s l => exact List.append_nil _

/-- A block is the user's entry of an exchange, or a reply with an empty line after it. -/
theorem blocksIn_singleton {t : Turn Host Move} (hs : t.before.talk.Sound) :
    blocksIn [t] = (t.opened?.map Pending.core).toList.map (fun core => [userSaying t.before.config.userLabel core]) ++
      (t.ended?.toList.map replySayings).filter fun b => !b.isEmpty := by
  unfold blocksIn
  cases Turn.news hs with
  | nothing opened ended _ said | opens opened ended _ _ said | ends opened ended _ _ said =>
    rw [List.map_singleton, said, opened, ended]
    rfl

namespace Run

/-- The exchanges of a chat that goes on from where a run left it, and the requests they are owed. -/
structure Along (r : Run) (id : SessionId) (ts : List (Turn Host Move)) (c : Controller) : Prop where
  steady : r.Steady c
  store : c.store = r.chat.store
  ledger : Ledger (r.turns ++ ts) c
  cores : c.pending.map Pending.core = r.chat.pending.map Pending.core ++ openedIn ts
  owed : ∀ p ∈ c.pending, ∀ q, p.owing? r.chat.config.agentName id = some q → q = r.owes id p.core
  started : ∀ core ∈ startedIn ts, core ∈ c.pending.map Pending.core
  requests : ts.flatMap Turn.requests =
    (startedIn ts).map fun core => ⟨r.chat.config.agentName, core.2, id⟩

/-- What the ends of exchanges have done to their states. -/
structure Ends (r : Run) (f : Exchange.Request → Except Exchange.Error Json.Value) (id : SessionId)
    (ts : List (Turn Host Move)) (c : Controller) : Prop where
  ended : ∀ e ∈ endedIn ts, ∃ core ∈ c.pending.map Pending.core, e = (core.1, r.settles f id core)
  nodup : ((endedIn ts).map Prod.fst).Nodup
  settled : ∀ e ∈ endedIn ts, c.exchangeState? e.1 = some (outcomeOf e.2).state
  others : ∀ i, i ∉ (endedIn ts).map Prod.fst → c.exchangeState? i =
    if i ∈ (openedIn ts).map Prod.fst then some .awaiting else r.chat.exchangeState? i

def sayingsOf (i : Exchange.Id) (said : List Saying) : List Saying := said.filter fun s => s.2.2 = some i

def userSayings (said : List Saying) : List Saying := said.filter fun s => s.1 = .user

/-- What has been said and told. -/
structure Tells (r : Run) (ts : List (Turn Host Move)) (c : Controller) : Prop where
  said : c.transcript.entries.map Entry.said =
    r.chat.transcript.entries.map Entry.said ++ (blocksIn ts).flatten
  blocks : (blocksIn ts).Perm ((openedIn ts).map (fun core => [userSaying r.chat.config.userLabel core]) ++
    ((endedIn ts).map replySayings).filter fun b => !b.isEmpty)
  notices : ts.flatMap Turn.notices = (endedIn ts).flatMap (noticesFor r.chat.config.failureMessage)
  users : userSayings (c.transcript.entries.map Entry.said) =
    userSayings (r.chat.transcript.entries.map Entry.said) ++
      (openedIn ts).map (userSaying r.chat.config.userLabel)
  /-- The user's entry of an exchange stands before its reply. -/
  tagged : ∀ i, sayingsOf i (c.transcript.entries.map Entry.said) =
    sayingsOf i (r.chat.transcript.entries.map Entry.said) ++
      (((openedIn ts).filter fun core => core.1 = i).map (userSaying r.chat.config.userLabel) ++
        ((endedIn ts).filter fun e => e.1 = i).flatMap replySayings)

section Step
variable {r : Run} {f : Exchange.Request → Except Exchange.Error Json.Value} {id : SessionId}
  {ts : List (Turn Host Move)} {t : Turn Host Move}

theorem Along.holds (h : Along r id ts t.before) (hs : r.chat.store.Holds r.chat.config.sessionKey id) :
    t.before.store.Holds t.before.config.sessionKey id := by
  rw [h.store, h.steady.config, ← r.steady_chat.config]
  exact hs

theorem Along.agent (h : Along r id ts t.before) : t.before.config.agentName = r.chat.config.agentName := by
  rw [h.steady.config, r.steady_chat.config]

/-- An exchange that is made later was never handed over before. -/
theorem Along.owes_next (h : Along r id ts t.before) :
    r.owes id t.before.next.core = ⟨r.chat.config.agentName, t.before.next.input, id⟩ := by
  have hlength : r.chat.pending.length ≤ t.before.tracker.started := by
    have hcores := congrArg List.length h.cores
    have hx := congrArg List.length h.steady.sound.exchanges
    rw [List.length_map, List.length_append, List.length_map] at hcores
    rw [List.length_map, List.length_range'] at hx
    have hx : t.before.pending.length = t.before.tracker.started := hx
    omega
  have hnone : r.chat.pending[t.before.next.core.1 - 1]? = none := List.getElem?_eq_none_iff.mpr hlength
  rw [owes, hnone]
  rfl

theorem Along.turn (h : Along r id ts t.before) (hs : r.chat.store.Holds r.chat.config.sessionKey id)
    (hm : t.move.sparesStore = true) : Along r id (ts ++ [t]) t.after := by
  obtain ⟨d, hd⟩ := t.comes
  have hholds := h.holds hs
  have hcores : t.after.pending.map Pending.core =
      t.before.pending.map Pending.core ++ (t.opened?.map Pending.core).toList := by
    rw [hd.opened]
    exact hd.does.cores
  refine ⟨h.steady.turn r hd, ?_, ?_, ?_, ?_, ?_, ?_⟩
  · exact (Turn.store_after hholds hm).trans h.store
  · rw [← List.append_assoc]
    exact h.ledger.turn h.steady.sound hd
  · rw [openedIn_concat, hcores, h.cores, List.append_assoc]
  · intro p hp q hq
    rw [← h.agent] at hq
    rcases Turn.owing?_after hholds hm hp hq with ⟨p₀, hp₀, hcore, hq₀⟩ | hopened
    · rw [h.agent] at hq₀
      rw [← hcore]
      exact h.owed p₀ hp₀ q hq₀
    · rw [hd.opened] at hopened
      obtain ⟨rfl, -⟩ := hd.does.opened_next hopened
      rw [h.owes_next, ← h.agent]
      exact (Option.some.inj hq).symm
  · intro core hcore
    rw [startedIn_concat, List.mem_append] at hcore
    rw [hcores, List.mem_append]
    rcases hcore with hcore | hcore
    · exact .inl (h.started core hcore)
    · obtain ⟨p, hp, rfl⟩ := Option.map_eq_some_iff.mp (Option.mem_toList.mp hcore)
      obtain ⟨k, -, hk⟩ := Turn.polled?_eq_some (Turn.starts?_eq_some.mp hp).1
      exact .inl (List.mem_map_of_mem (List.mem_of_getElem? hk))
  · rw [List.flatMap_append, List.flatMap_singleton, startedIn_concat, List.map_append, h.requests]
    cases hst : t.starts? with
    | none =>
      rw [Turn.requests_of_not_starts? hst]
      rfl
    | some p =>
      rw [Turn.requests_of_starts? hholds hm hst, h.agent]
      rfl

/-- Whoever is not on record has not ended, and neither has who awaits its response. -/
theorem Ends.not_mem {c : Controller} (h : Ends r f id ts c) {i : Exchange.Id}
    (hi : c.exchangeState? i = none ∨ c.exchangeState? i = some .awaiting) : i ∉ (endedIn ts).map Prod.fst := by
  intro hm
  obtain ⟨e, he, rfl⟩ := List.mem_map.mp hm
  have hsettled := Exchange.Tracker.Outcome.isSettled_state (outcomeOf e.2)
  rw [h.settled e he] at hi
  rcases hi with hi | hi
  · exact nomatch hi
  · rw [Option.some.inj hi] at hsettled
    exact nomatch hsettled

theorem Ends.kept (h : Ends r f id ts t.before) : ∀ e ∈ endedIn ts,
    ∃ core ∈ t.after.pending.map Pending.core, e = (core.1, r.settles f id core) := by
  obtain ⟨d, hd⟩ := t.comes
  have hc : t.after.pending.map Pending.core = _ := hd.does.cores
  rw [hc]
  exact fun e he => (h.ended e he).imp fun core ⟨hcore, heq⟩ => ⟨List.mem_append_left _ hcore, heq⟩

theorem Ends.opens {p : Pending} (h : Ends r f id ts t.before) (opened : t.opened? = some p) (ended : t.ended? = none)
    (unknown : t.before.exchangeState? p.exchange = none)
    (state : ∀ i, t.after.exchangeState? i = if i = p.exchange then some .awaiting else t.before.exchangeState? i) :
    Ends r f id (ts ++ [t]) t.after := by
  have he : endedIn (ts ++ [t]) = endedIn ts := by
    rw [endedIn_concat, ended]
    exact List.append_nil _
  have ho : openedIn (ts ++ [t]) = openedIn ts ++ [p.core] := by
    rw [openedIn_concat, opened]
    rfl
  have hnew := h.not_mem (.inl unknown)
  refine ⟨he ▸ h.kept, he ▸ h.nodup, ?_, ?_⟩
  · rw [he]
    intro e hmem
    have hne : e.1 ≠ p.exchange := fun hi => hnew (hi ▸ List.mem_map_of_mem hmem)
    rw [state, if_neg hne]
    exact h.settled e hmem
  · rw [he, ho, List.map_append, List.map_singleton]
    intro i hi
    have hiff : i ∈ (openedIn ts).map Prod.fst ++ [p.core.1] ↔ i ∈ (openedIn ts).map Prod.fst ∨ i = p.exchange := by
      rw [List.mem_append, List.mem_singleton]
      rfl
    rw [state, h.others i hi, if_congr hiff rfl rfl]
    by_cases hp : i = p.exchange
    · rw [if_pos hp, if_pos (.inr hp)]
    · rw [if_neg hp, if_congr (or_iff_left hp) rfl rfl]

theorem Ends.ends {e : Exchange.Id × Except Exchange.Error Reply} (h : Ends r f id ts t.before)
    (opened : t.opened? = none) (ended : t.ended? = some e)
    (settles : ∃ core ∈ t.after.pending.map Pending.core, e = (core.1, r.settles f id core))
    (awaiting : t.before.exchangeState? e.1 = some .awaiting)
    (state : ∀ i, t.after.exchangeState? i =
      if i = e.1 then some (outcomeOf e.2).state else t.before.exchangeState? i) :
    Ends r f id (ts ++ [t]) t.after := by
  have he : endedIn (ts ++ [t]) = endedIn ts ++ [e] := by
    rw [endedIn_concat, ended]
    rfl
  have ho : openedIn (ts ++ [t]) = openedIn ts := by
    rw [openedIn_concat, opened]
    exact List.append_nil _
  have hnew := h.not_mem (.inr awaiting)
  refine ⟨?_, ?_, ?_, ?_⟩
  · rw [he, List.forall_mem_append, List.forall_mem_singleton]
    exact ⟨h.kept, settles⟩
  · rw [he, List.map_append, List.map_singleton]
    exact List.nodup_append.mpr ⟨h.nodup, List.pairwise_singleton _ _, fun i hi j hj hij =>
      hnew (List.mem_singleton.mp hj ▸ hij ▸ hi)⟩
  · rw [he, List.forall_mem_append, List.forall_mem_singleton]
    refine ⟨fun e' hmem => ?_, (state e.1).trans (if_pos rfl)⟩
    have hne : e'.1 ≠ e.1 := fun hi => hnew (hi ▸ List.mem_map_of_mem hmem)
    rw [state, if_neg hne]
    exact h.settled e' hmem
  · rw [he, ho, List.map_append, List.map_singleton]
    intro i hi
    rw [List.mem_append, List.mem_singleton, not_or] at hi
    rw [state, if_neg hi.2]
    exact h.others i hi.1

theorem Ends.turn (h : Ends r f id ts t.before) (ha : Along r id ts t.before)
    (hs : r.chat.store.Holds r.chat.config.sessionKey id) (ht : t.Served f) : Ends r f id (ts ++ [t]) t.after := by
  cases Turn.news ha.steady.sound with
  | nothing opened ended state =>
    have he : endedIn (ts ++ [t]) = endedIn ts := by
      rw [endedIn_concat, ended]
      exact List.append_nil _
    have ho : openedIn (ts ++ [t]) = openedIn ts := by
      rw [openedIn_concat, opened]
      exact List.append_nil _
    refine ⟨he ▸ h.kept, he ▸ h.nodup, ?_, ?_⟩
    · rw [he]
      exact fun e hmem => (state e.1).trans (h.settled e hmem)
    · rw [he, ho]
      exact fun i hi => (state i).trans (h.others i hi)
  | opens opened ended unknown state => exact h.opens opened ended unknown state
  | @ends e opened ended awaiting state =>
    refine h.ends opened ended ?_ awaiting state
    obtain ⟨p, hp, hi, q, hq, hx⟩ := Turn.owing?_of_ended? (ha.holds hs) ht ended
    rw [ha.agent] at hq
    obtain ⟨d, hd⟩ := t.comes
    have hc : t.after.pending.map Pending.core = _ := hd.does.cores
    refine ⟨p.core, hc ▸ List.mem_append_left _ (List.mem_map_of_mem hp), Prod.ext hi.symm ?_⟩
    rw [hx, ha.owed p hp q hq, settles, Controller.returns, Controller.returns, ha.steady.renderer,
      r.steady_chat.renderer, ← hi]
    rfl

theorem userSayings_append (l l' : List Saying) : userSayings (l ++ l') = userSayings l ++ userSayings l' :=
  List.filter_append ..

theorem userSayings_map (label : String) (cores : List (Exchange.Id × String)) :
    userSayings (cores.map (userSaying label)) = cores.map (userSaying label) := by
  refine List.filter_eq_self.mpr fun s hs => ?_
  obtain ⟨core, -, rfl⟩ := List.mem_map.mp hs
  rfl

theorem userSayings_replies (es : List (Exchange.Id × Except Exchange.Error Reply)) :
    userSayings (es.flatMap replySayings) = [] := by
  refine List.filter_eq_nil_iff.mpr fun s hs => ?_
  obtain ⟨⟨i, x⟩, -, hs⟩ := List.mem_flatMap.mp hs
  cases x with
  | error => exact nomatch hs
  | ok reply =>
    simp only [replySayings, List.mem_cons, List.not_mem_nil, or_false] at hs
    rcases hs with rfl | rfl <;> exact of_decide_eq_false rfl

theorem sayingsOf_append (i : Exchange.Id) (l l' : List Saying) :
    sayingsOf i (l ++ l') = sayingsOf i l ++ sayingsOf i l' := List.filter_append ..

theorem sayingsOf_map (i : Exchange.Id) (label : String) (cores : List (Exchange.Id × String)) :
    sayingsOf i (cores.map (userSaying label)) = (cores.filter fun core => core.1 = i).map (userSaying label) := by
  rw [sayingsOf, List.filter_map]
  refine congrArg _ (List.filter_congr fun core _ => ?_)
  exact decide_eq_decide.mpr Option.some_inj

theorem sayingsOf_replies (i : Exchange.Id) (es : List (Exchange.Id × Except Exchange.Error Reply)) :
    sayingsOf i (es.flatMap replySayings) = (es.filter fun e => e.1 = i).flatMap replySayings := by
  induction es with
  | nil => rfl
  | cons e es ih =>
    have he : sayingsOf i (replySayings e) = if e.1 = i then replySayings e else [] := by
      obtain ⟨j, x⟩ := e
      by_cases hj : j = i <;> cases x <;> simp [replySayings, sayingsOf, hj]
    rw [sayingsOf] at ih he ⊢
    rw [List.flatMap_cons, List.filter_append, ih, he, List.filter_cons]
    by_cases hj : e.1 = i
    · simp [hj]
    · simp [hj]

/-- What is said and told is what the exchanges made and ended have to say. -/
theorem Tells.turn (h : Tells r ts t.before) (hs : r.Steady t.before) (he : Ends r f id ts t.before) :
    Tells r (ts ++ [t]) t.after := by
  obtain ⟨d, hd⟩ := t.comes
  have hsaid : t.after.transcript.entries.map Entry.said = t.before.transcript.entries.map Entry.said ++
      ((t.opened?.map Pending.core).toList.map (userSaying r.chat.config.userLabel) ++
        t.ended?.toList.flatMap replySayings) := by
    rw [hd.entries, List.map_append]
    refine congrArg _ ((Turn.sayings_eq hs.sound).trans ?_)
    rw [hs.config, r.steady_chat.config]
  refine ⟨?_, ?_, ?_, ?_, fun i => ?_⟩
  · rw [hd.entries, List.map_append, h.said, blocksIn_concat, List.flatten_append, flatten_blocksIn, List.append_assoc]
    rfl
  · rw [blocksIn_concat, blocksIn_singleton hs.sound, openedIn_concat, endedIn_concat, hs.config,
      ← r.steady_chat.config, List.map_append, List.map_append, List.filter_append]
    exact (h.blocks.append_right _).trans (perm_append_append _ _ _ _)
  · rw [List.flatMap_append, List.flatMap_singleton, h.notices, endedIn_concat, List.flatMap_append,
      Turn.notices_eq hs.sound, hs.config, r.steady_chat.config]
  · rw [hsaid, openedIn_concat, userSayings_append, userSayings_append, userSayings_map, userSayings_replies, h.users,
      List.map_append, List.append_nil, List.append_assoc]
  · rw [hsaid, openedIn_concat, endedIn_concat, sayingsOf_append, sayingsOf_append, sayingsOf_map, sayingsOf_replies,
      h.tagged, List.filter_append, List.filter_append, List.map_append, List.flatMap_append]
    have hcomm : ((endedIn ts).filter fun e => e.1 = i).flatMap replySayings ++
        ((t.opened?.map Pending.core).toList.filter fun core => core.1 = i).map (userSaying r.chat.config.userLabel) =
        ((t.opened?.map Pending.core).toList.filter fun core => core.1 = i).map (userSaying r.chat.config.userLabel) ++
          ((endedIn ts).filter fun e => e.1 = i).flatMap replySayings := by
      cases hopened : t.opened? with
      | none => exact List.append_nil _
      | some p =>
        by_cases hi : p.exchange = i
        · have hnew := he.not_mem (.inl (Turn.unknown_of_opened? hs.sound hopened))
          have hnil : ((endedIn ts).filter fun e => e.1 = i) = [] := List.filter_eq_nil_iff.mpr fun e hmem hei =>
            hnew (List.mem_map.mpr ⟨e, hmem, (of_decide_eq_true hei).trans hi.symm⟩)
          rw [hnil]
          exact (List.append_nil _).symm
        · have hnil : ((Option.map Pending.core (some p)).toList.filter fun core => core.1 = i) = [] :=
            List.filter_eq_nil_iff.mpr fun core hmem => by
              obtain rfl := List.mem_singleton.mp hmem
              exact fun hc => hi (of_decide_eq_true hc)
          rw [hnil]
          exact List.append_nil _
    simp only [List.append_assoc]
    rw [← List.append_assoc _ _ ((t.ended?.toList.filter fun e => e.1 = i).flatMap replySayings), hcomm,
      List.append_assoc]

end Step

end Run

namespace Schedule
variable {r : Run} {s : Schedule r} {f : Exchange.Request → Except Exchange.Error Json.Value} {id : SessionId}

/-- All that has come of a schedule. -/
structure Course (r : Run) (f : Exchange.Request → Except Exchange.Error Json.Value) (id : SessionId)
    (ts : List (Turn Host Move)) (c : Controller) : Prop where
  along : r.Along id ts c
  ends : r.Ends f id ts c
  tells : r.Tells ts c

theorem course_start (r : Run) (f : Exchange.Request → Except Exchange.Error Json.Value) (id : SessionId) :
    Course r f id [] r.chat where
  along :=
    { steady := r.steady_chat
      store := rfl
      ledger := by
        rw [List.append_nil]
        exact r.ledger
      cores := (List.append_nil _).symm
      owed := fun p hp q hq => by
        obtain ⟨k, hk⟩ := List.mem_iff_getElem?.mp hp
        have hx : p.core.1 - 1 = k := by
          show p.exchange - 1 = k
          rw [r.sound.exchange_eq hk, Nat.add_sub_cancel]
        rw [Run.owes, hx, hk, Option.bind_some, hq]
        rfl
      started := fun _ h => (List.not_mem_nil h).elim
      requests := rfl }
  ends := ⟨fun _ h => (List.not_mem_nil h).elim, List.nodup_nil, fun _ h => (List.not_mem_nil h).elim, fun _ _ => rfl⟩
  tells := ⟨(List.append_nil _).symm, .nil, rfl, (List.append_nil _).symm, fun _ => (List.append_nil _).symm⟩

/-- However a chat goes on, as long as its id is stored, its course is determined by the exchanges made, started and
ended. -/
theorem course (hs : r.chat.store.Holds r.chat.config.sessionKey id) (h : s.Served f) :
    Course r f id s.turns s.finish := by
  have hstart : Course r f id [] s.host.chat := s.chat ▸ course_start r f id
  refine Turn.run_induction next (P := fun ts h => (∀ t ∈ ts, Turn.Served f t) → Course r f id ts h.chat)
    (fun _ => hstart) (fun ts t ih hserved => ?_) s.moves h
  rw [List.forall_mem_append, List.forall_mem_singleton] at hserved
  obtain ⟨along, ends, tells⟩ := ih hserved.1
  exact ⟨along.turn hs hserved.2.spares, ends.turn along hs hserved.2, tells.turn along.steady ends⟩

end Schedule

end Host

end Parley

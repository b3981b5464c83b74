import Parley.Proofs.Controller.Requests
import Parley.Proofs.Host.Run

/-!
# The requests of a run

* `Turn.starts?`, `Turn.due?` : the exchange that a turn starts, and the one for which an id can be had then;
* `Turn.handed`, `Turn.untouched_or_touched` : what polling hands over, and what a turn does to the exchange it touches;
* `Run.Ledger` : what was started and handed over so far; every turn keeps it (`Ledger.turn`);
* `Run.requested` : the requests of every run.
-/

namespace Parley

open Controller (Deed Does Effect Handed Pending Phase)

namespace Turn

section Observers
variable (t : Turn Host Host.Move)

def starts? : Option Pending := t.polled?.filter fun p => p.phase = .unstarted

/-- The exchange that is started when an id can be had. -/
def due? : Option Pending := t.starts?.filter fun _ => t.before.store.resolves t.before.config.sessionKey

end Observers

variable {t : Turn Host Host.Move} {p : Pending}

theorem starts?_eq_some : t.starts? = some p ↔ t.polled? = some p ∧ p.phase = .unstarted := by
  rw [starts?, Option.filter_eq_some_iff, decide_eq_true_iff]

theorem due?_eq_some : t.due? = some p ↔
    t.starts? = some p ∧ t.before.store.resolves t.before.config.sessionKey = true := by
  rw [due?, Option.filter_eq_some_iff]

/-! ## What is polled -/

theorem starts?_of_polled? (h : t.polled? = none) : t.starts? = none := by
  rw [starts?, h]
  rfl

theorem handed (h : t.polled? = some p) : ∃ k s, t.before.pending[k]? = some p ∧
    t.touched? = some p.exchange ∧ Handed t.before t.state.supply.fresh k p s ∧
    t.requests = Effect.requests s.effects ∧ t.after = s.state ∧ t.outcome.answer = .progress s.result := by
  obtain ⟨k, move, hp⟩ := polled?_eq_some h
  obtain ⟨host, m⟩ := t
  obtain rfl : m = .poll k := move
  obtain ⟨chat, effects, answer⟩ := step_poll host k
  refine ⟨k, _, hp, ?_, Controller.poll_handed _ _ hp, congrArg Effect.requests effects, chat, answer⟩
  exact congrArg (Option.map Pending.exchange) hp

/-- Nothing is handed over unless an exchange is polled. -/
theorem requests_of_polled? (h : t.polled? = none) : t.requests = [] := by
  cases t.acts with
  | submits aside chat effects answer =>
    exact (congrArg Effect.requests effects).trans (Controller.send_keeps t.before).1
  | still _ _ _ _ effects => exact congrArg Effect.requests effects
  | polls _ polled => exact nomatch h.symm.trans polled
  | drops move | refuses move | writes move =>
    rw [requests, outcome, move]
    rfl
  | loads move =>
    rw [requests, outcome, move]
    exact Controller.Effect.requests_view _
  | asks move | resets move =>
    rw [requests, outcome, move]
    exact Controller.Effect.requests_log _

/-! ## The exchange that is touched -/

/-- No exchange is touched; one may be made. -/
structure Untouched (t : Turn Host Host.Move) : Prop where
  touched : t.touched? = none
  starts : t.starts? = none
  requests : t.requests = []
  sent : t.after.sent = t.before.sent
  pending : t.after.pending = t.before.pending ++ t.opened?.toList

/-- One exchange is touched, which is started from then on; while it waits, it does so for its own request. -/
structure Touched (t : Turn Host Host.Move) (k : Nat) (p : Pending) (φ : Phase) : Prop where
  there : t.before.pending[k]? = some p
  touched : t.touched? = some p.exchange
  starts : ∀ q, t.starts? = some q → q = p ∧ p.phase = .unstarted
  started : φ ≠ .unstarted
  waiting : ∀ n q, φ = .waiting n q → p.phase = φ ∨ n = t.before.sent ∧ t.requests = [q]
  sent : t.after.sent = t.before.sent + t.requests.length
  pending : t.after.pending = (t.before.setPhase k φ).pending

theorem touched_of_polled? (h : t.polled? = some p) : ∃ k φ, t.Touched k p φ := by
  obtain ⟨k, s, hp, htouched, hs, hr, ha, -⟩ := handed h
  obtain ⟨φ, hφ, hpending, hsent, hwaiting⟩ := hs.phase hp
  rw [← ha] at hpending hsent
  rw [← hr] at hsent hwaiting
  refine ⟨k, φ, hp, htouched, fun q hq => ?_, hφ, hwaiting, hsent, hpending⟩
  obtain ⟨hq, hu⟩ := starts?_eq_some.mp hq
  rw [h] at hq
  obtain rfl := Option.some.inj hq
  exact ⟨rfl, hu⟩

theorem untouched_or_touched (t : Turn Host Host.Move) : t.Untouched ∨ ∃ k p φ, t.Touched k p φ := by
  cases hp : t.polled? with
  | some p =>
    obtain ⟨k, φ, h⟩ := touched_of_polled? hp
    exact .inr ⟨k, p, φ, h⟩
  | none =>
    have hs := starts?_of_polled? hp
    have hr := requests_of_polled? hp
    cases t.acts with
    | submits aside chat effects answer =>
      obtain ⟨-, -, hsent, hpending⟩ := Controller.send_keeps t.before
      refine .inl ⟨aside.touched, hs, hr, ?_, ?_⟩
      · rw [chat]
        exact hsent
      · rw [opened?, answer, chat]
        exact hpending
    | still aside talk _ sent _ answer =>
      refine .inl ⟨aside.touched, hs, hr, sent, ?_⟩
      rw [opened?_of_sent? answer]
      exact (congrArg Controller.Talk.pending talk).trans (List.append_nil _).symm
    | polls _ polled => cases hp.symm.trans polled
    | @drops k move =>
      obtain ⟨h, m⟩ := t
      cases move
      have htouched : Turn.touched? ⟨h, .drop k⟩ = (h.chat.pending[k]?).map Pending.exchange := rfl
      cases hk : h.chat.pending[k]? with
      | none =>
        rw [hk] at htouched
        exact .inl ⟨htouched, hs, hr, rfl, (Controller.setPhase_absent _ _ hk .gone).trans (List.append_nil _).symm⟩
      | some p =>
        rw [hk] at htouched
        refine .inr ⟨k, p, .gone, hk, htouched, fun q hq => ?_, Phase.noConfusion, fun n q hφ => Phase.noConfusion hφ,
          rfl, rfl⟩
        rw [hs] at hq
        cases hq
    | loads move | refuses move | writes move | resets move =>
      obtain ⟨h, m⟩ := t
      cases move
      exact .inl ⟨rfl, hs, hr, rfl, (List.append_nil _).symm⟩
    | asks move chat =>
      obtain ⟨h, m⟩ := t
      cases move
      refine .inl ⟨rfl, hs, hr, (congrArg Controller.sent chat).trans rfl, ?_⟩
      exact (congrArg Controller.pending chat).trans (List.append_nil _).symm

/-! ## The exchange that is started -/

/-- Its request is handed over, for the session whose id is stored then. -/
theorem requests_of_due? (h : t.due? = some p) : ∃ session,
    t.requests = [⟨t.before.config.agentName, p.input, session⟩] ∧
      t.after.store.id? t.before.config.sessionKey = some session := by
  obtain ⟨hs, hres⟩ := due?_eq_some.mp h
  obtain ⟨hp, hu⟩ := starts?_eq_some.mp hs
  obtain ⟨k, s, -, -, hh, hr, ha, -⟩ := handed hp
  rw [hr, ha]
  cases hh with
  | later started => exact absurd hu started
  | refused _ he =>
    obtain ⟨id, hid⟩ := he.resolves.mp hres
    exact nomatch hid
  | @sent session _ _ he hreq => exact ⟨session, hreq, he.id?_eq⟩

theorem requests_of_not_due? (h : t.due? = none) : t.requests = [] := by
  cases hp : t.polled? with
  | none => exact requests_of_polled? hp
  | some p =>
    obtain ⟨k, s, -, -, hh, hr, -, -⟩ := handed hp
    rw [hr]
    cases hh with
    | later _ keeps => exact keeps.requests
    | refused _ _ _ keeps => exact keeps.requests
    | sent hu he =>
      have hdue : t.due? = some p := due?_eq_some.mpr ⟨starts?_eq_some.mpr ⟨hp, hu⟩, he.resolves.mpr ⟨_, rfl⟩⟩
      exact nomatch h.symm.trans hdue

theorem ended?_of_not_due? (hs : t.starts? = some p) (h : t.due? = none) :
    ∃ e, t.ended? = some (p.exchange, .error (.session "resolve-session-id" e)) := by
  obtain ⟨hp, hu⟩ := starts?_eq_some.mp hs
  obtain ⟨k, s, -, -, hh, -, -, ha⟩ := handed hp
  cases hh with
  | later started => exact absurd hu started
  | @refused e _ _ result =>
    refine ⟨e, ?_⟩
    unfold ended?
    rw [hp, ha, result]
  | sent _ he =>
    have hdue : t.due? = some p := due?_eq_some.mpr ⟨hs, he.resolves.mpr ⟨_, rfl⟩⟩
    exact nomatch h.symm.trans hdue

end Turn

/-! ## What was started and handed over so far -/

namespace Host.Run

/-- What was started and handed over in the turns before a chat. -/
structure Ledger (ts : List (Turn Host Move)) (c : Controller) : Prop where
  touched : ∀ u ∈ ts, ∀ i, u.touched? = some i → i ∈ c.pending.map Pending.exchange
  /-- An exchange is unstarted as long as nothing is done to it. -/
  unstarted : ∀ p ∈ c.pending, p.phase = .unstarted ↔ ∀ u ∈ ts, u.touched? ≠ some p.exchange
  started : ∀ u ∈ ts, ∀ p, u.starts? = some p → u.touched? = some p.exchange
  once : ((ts.filterMap Turn.starts?).map Pending.exchange).Nodup
  sent : c.sent = (ts.flatMap Turn.requests).length
  /-- Requests that wait are on record under their numbers. -/
  waiting : ∀ p ∈ c.pending, ∀ n q, p.phase = .waiting n q → (ts.flatMap Turn.requests)[n]? = some q

theorem Ledger.opened_untouched {ts : List (Turn Host Move)} {t : Turn Host Move} {d : Deed} {p : Pending}
    (h : Ledger ts t.before) (hs : t.before.talk.Sound) (hd : t.Comes d) (hp : t.opened? = some p) :
    p.phase = .unstarted ∧ ∀ u ∈ ts, u.touched? ≠ some p.exchange := by
  rw [hd.opened] at hp
  obtain ⟨rfl, -⟩ := hd.does.opened_next hp
  refine ⟨rfl, fun u hu ht => ?_⟩
  have hm := h.touched u hu _ ht
  have hx : t.before.pending.map Pending.exchange = List.range' 1 t.before.tracker.started := hs.exchanges
  rw [hx, List.mem_range'_1] at hm
  exact absurd hm.2 (by
    show ¬ t.before.tracker.started + 1 < 1 + t.before.tracker.started
    omega)

theorem Ledger.untouched {ts : List (Turn Host Move)} {t : Turn Host Move} {d : Deed} (h : Ledger ts t.before)
    (hs : t.before.talk.Sound) (hd : t.Comes d) (ht : t.Untouched) : Ledger (ts ++ [t]) t.after := by
  obtain ⟨touched, starts, requests, sent, pending⟩ := ht
  have hstarts : (ts ++ [t]).filterMap Turn.starts? = ts.filterMap Turn.starts? := by
    rw [List.filterMap_append, List.filterMap_cons_none starts]
    exact List.append_nil _
  have hrequests : (ts ++ [t]).flatMap Turn.requests = ts.flatMap Turn.requests := by
    rw [List.flatMap_append, List.flatMap_singleton, requests, List.append_nil]
  have hmem : ∀ p ∈ t.after.pending, p ∈ t.before.pending ∨ t.opened? = some p := by
    intro p hp
    rw [pending, List.mem_append, Option.mem_toList] at hp
    exact hp
  refine ⟨?_, ?_, ?_, ?_, ?_, ?_⟩
  · intro u hu i hi
    rw [pending, List.map_append]
    rcases List.mem_append.mp hu with hu | hu
    · exact List.mem_append_left _ (h.touched u hu i hi)
    · obtain rfl := List.mem_singleton.mp hu
      exact nomatch touched.symm.trans hi
  · intro p hp
    have hall : (∀ u ∈ ts ++ [t], u.touched? ≠ some p.exchange) ↔ ∀ u ∈ ts, u.touched? ≠ some p.exchange := by
      rw [List.forall_mem_append, List.forall_mem_singleton, touched]
      exact and_iff_left (Option.some_ne_none _).symm
    rw [hall]
    rcases hmem p hp with hp | hp
    · exact h.unstarted p hp
    · obtain ⟨hu, hts⟩ := h.opened_untouched hs hd hp
      exact iff_of_true hu hts
  · intro u hu p hp
    rcases List.mem_append.mp hu with hu | hu
    · exact h.started u hu p hp
    · obtain rfl := List.mem_singleton.mp hu
      exact nomatch starts.symm.trans hp
  · rw [hstarts]
    exact h.once
  · rw [hrequests, sent]
    exact h.sent
  · intro p hp n q hq
    rw [hrequests]
    rcases hmem p hp with hp | hp
    · exact h.waiting p hp n q hq
    · rw [(h.opened_untouched hs hd hp).1] at hq
      exact Phase.noConfusion hq

theorem Ledger.touched_one {ts : List (Turn Host Move)} {t : Turn Host Move} (h : Ledger ts t.before)
    (hs : t.before.talk.Sound) {k : Nat} {p : Pending} {φ : Phase} (ht : t.Touched k p φ) :
    Ledger (ts ++ [t]) t.after := by
  obtain ⟨hp, touched, starts, phase, waiting, sent, pending⟩ := ht
  have hmem : p ∈ t.before.pending := List.mem_of_getElem? hp
  have hexchanges : t.after.pending.map Pending.exchange = t.before.pending.map Pending.exchange := by
    rw [pending]
    exact Controller.exchange_setPhase t.before k φ
  have hrequests : (ts ++ [t]).flatMap Turn.requests = ts.flatMap Turn.requests ++ t.requests := by
    rw [List.flatMap_append, List.flatMap_singleton]
  refine ⟨?_, ?_, ?_, ?_, ?_, ?_⟩
  · intro u hu i hi
    rw [hexchanges]
    rcases List.mem_append.mp hu with hu | hu
    · exact h.touched u hu i hi
    · obtain rfl := List.mem_singleton.mp hu
      rw [touched] at hi
      obtain rfl := Option.some.inj hi
      exact List.mem_map_of_mem hmem
  · intro q hq
    rw [pending] at hq
    rw [List.forall_mem_append, List.forall_mem_singleton, touched]
    rcases hs.mem_setPhase hp hq with ⟨hq, hne⟩ | rfl
    · rw [h.unstarted q hq]
      exact (and_iff_left fun he => hne (Option.some.inj he).symm).symm
    · exact iff_of_false phase fun hall => hall.2 rfl
  · intro u hu q hq
    rcases List.mem_append.mp hu with hu | hu
    · exact h.started u hu q hq
    · obtain rfl := List.mem_singleton.mp hu
      rw [(starts q hq).1]
      exact touched
  · rw [List.filterMap_append, List.map_append]
    cases hst : t.starts? with
    | none =>
      rw [List.filterMap_cons_none hst]
      exact (List.append_nil _).symm ▸ h.once
    | some q =>
      obtain ⟨rfl, hu⟩ := starts q hst
      rw [List.filterMap_cons_some hst]
      -- nobody started before was this exchange, for it was still unstarted
      refine List.nodup_append.mpr ⟨h.once, List.pairwise_singleton _ _, fun i hi j hj => ?_⟩
      obtain rfl := List.mem_singleton.mp hj
      obtain ⟨q', hq', rfl⟩ := List.mem_map.mp hi
      obtain ⟨u, hu', hstart⟩ := List.mem_filterMap.mp hq'
      intro he
      refine (h.unstarted q hmem).mp hu u hu' ?_
      rw [h.started u hu' q' hstart, he]
  · rw [hrequests, List.length_append, sent, h.sent]
  · -- a request on record keeps its number when more are handed over, and a new one gets the next
    intro q hq n request hn
    rw [pending] at hq
    rw [hrequests]
    have hold : ∀ p' ∈ t.before.pending, p'.phase = .waiting n request →
        (ts.flatMap Turn.requests ++ t.requests)[n]? = some request := by
      intro p' hp' hw
      have hget := h.waiting p' hp' n request hw
      obtain ⟨hlt, -⟩ := List.getElem?_eq_some_iff.mp hget
      rw [List.getElem?_append_left hlt, hget]
    rcases hs.mem_setPhase hp hq with ⟨hq, -⟩ | rfl
    · exact hold q hq hn
    · rcases waiting n request hn with hphase | ⟨rfl, hreq⟩
      · exact hold p hmem (hphase.trans hn)
      · rw [hreq, h.sent]
        exact List.getElem?_concat_length

theorem Ledger.turn {ts : List (Turn Host Move)} {t : Turn Host Move} {d : Deed} (h : Ledger ts t.before)
    (hs : t.before.talk.Sound) (hd : t.Comes d) : Ledger (ts ++ [t]) t.after := by
  rcases t.untouched_or_touched with ht | ⟨k, p, φ, ht⟩
  · exact h.untouched hs hd ht
  · exact h.touched_one hs ht

variable (r : Run)

theorem ledger : Ledger r.turns r.chat := by
  refine r.induction (P := Ledger) ?_ fun ts t d hs hd h => h.turn hs.sound hd
  refine ⟨?_, ?_, ?_, List.nodup_nil, rfl, ?_⟩
  all_goals
    intro x hx
    exact (List.not_mem_nil hx).elim

def requests (r : Run) : List Exchange.Request := r.turns.flatMap Turn.requests

/-- The exchanges that were started when an id could be had, in order. -/
def due (r : Run) : List Pending := r.turns.filterMap Turn.due?

/-- An exchange was made of what was typed when it was submitted, whatever was typed later. -/
theorem input_of_pending {p : Pending} (hp : p ∈ r.chat.pending) : ∃ u ∈ r.turns,
    u.opened?.map Pending.exchange = some p.exchange ∧ u.before.input = p.input ∧
      Text.isBlankText p.input = false := by
  have hm : p.core ∈ r.turns.filterMap fun t => t.opened?.map Pending.core := by
    rw [r.opened_cores]
    exact List.mem_map_of_mem hp
  obtain ⟨u, hu, hcore⟩ := List.mem_filterMap.mp hm
  obtain ⟨q, hq, hqp⟩ := Option.map_eq_some_iff.mp hcore
  obtain ⟨hexchange, hinput⟩ := Prod.mk.inj hqp
  obtain ⟨d, hd⟩ := u.comes
  obtain ⟨rfl, hblank⟩ := hd.does.opened_next (hd.opened.symm.trans hq)
  refine ⟨u, hu, ?_, hinput, ?_⟩
  · rw [hq]
    exact congrArg some hexchange
  · rw [← hinput]
    exact hblank

/-- The requests of a run are those of the exchanges that were started when an id could be had. -/
structure Requested : Prop where
  /-- What starts an exchange is the first that is done to it, and it is polled. -/
  first : ∀ ts t us, r.turns = ts ++ t :: us → ∀ p,
    t.starts? = some p ↔ t.polled? = some p ∧ ∀ u ∈ ts, u.touched? ≠ some p.exchange
  /-- Each of them has its request, in order. -/
  requests : r.requests.map (fun q => (q.agent, q.input)) =
    r.due.map fun p => (r.config.normalized.agentName, p.input)
  /-- None of them has two. -/
  once : (r.due.map Pending.exchange).Nodup
  /-- The request is handed over at the start, under the id that the store holds then. -/
  sent : ∀ t ∈ r.turns, ∀ p, t.due? = some p → ∃ session : SessionId,
    t.requests = [⟨r.config.normalized.agentName, p.input, session⟩] ∧ Session.isCanonical session.text = true ∧
      t.after.store.entries.find? r.config.normalized.sessionKey = some session.text
  /-- Nothing is handed over at any other time. -/
  silent : ∀ t ∈ r.turns, t.due? = none → t.requests = []
  /-- The input is what was typed when the exchange was made. -/
  input : ∀ ts t us, r.turns = ts ++ t :: us → ∀ p, t.due? = some p → ∃ u ∈ ts,
    u.opened?.map Pending.exchange = some p.exchange ∧ u.before.input = p.input ∧ Text.isBlankText p.input = false
  /-- Without an id an exchange is over at once. -/
  refused : ∀ t ∈ r.turns, ∀ p, t.starts? = some p → t.due? = none →
    ∃ e, t.ended? = some (p.exchange, .error (.session "resolve-session-id" e))
  /-- Whoever waits does so for its request as it was handed over. -/
  waiting : ∀ p ∈ r.chat.pending, ∀ n q, p.phase = .waiting n q → r.requests[n]? = some q

theorem requests_eq : r.requests.map (fun q => (q.agent, q.input)) =
    r.due.map fun p => (r.config.normalized.agentName, p.input) := by
  refine r.induction (P := fun ts _ => (ts.flatMap Turn.requests).map (fun q => (q.agent, q.input)) =
    (ts.filterMap Turn.due?).map fun p => (r.config.normalized.agentName, p.input)) rfl fun ts t d hs _ h => ?_
  rw [List.flatMap_append, List.map_append, h, List.filterMap_append, List.map_append, List.flatMap_singleton]
  cases hdue : t.due? with
  | none =>
    rw [Turn.requests_of_not_due? hdue, List.filterMap_cons_none hdue]
    rfl
  | some p =>
    obtain ⟨session, hr, -⟩ := Turn.requests_of_due? hdue
    rw [hr, List.filterMap_cons_some hdue, hs.config]
    rfl

theorem due_sublist (ts : List (Turn Host Move)) : (ts.filterMap Turn.due?).Sublist (ts.filterMap Turn.starts?) := by
  induction ts with
  | nil => exact List.nil_sublist _
  | cons t ts ih =>
    cases hdue : t.due? with
    | none =>
      rw [List.filterMap_cons_none hdue, List.filterMap_cons]
      split
      · exact ih
      · exact ih.trans (List.sublist_cons_self _ _)
    | some p =>
      rw [List.filterMap_cons_some hdue, List.filterMap_cons_some (Turn.due?_eq_some.mp hdue).1]
      exact ih.cons_cons p

/-- An exchange that is polled is unstarted exactly when nothing was done to it before. -/
theorem starts?_iff {ts us : List (Turn Host Move)} {t : Turn Host Move} (h : r.turns = ts ++ t :: us) (p : Pending) :
    t.starts? = some p ↔ t.polled? = some p ∧ ∀ u ∈ ts, u.touched? ≠ some p.exchange := by
  obtain ⟨ms, rfl, ht⟩ := r.turns_at h
  have hl : Ledger (r.playing ms).turns t.before := by
    unfold Turn.before
    rw [ht]
    exact (r.playing ms).ledger
  rw [Turn.starts?_eq_some]
  refine and_congr_right fun hp => ?_
  obtain ⟨k, -, hk, -⟩ := Turn.handed hp
  exact hl.unstarted p (List.mem_of_getElem? hk)

/-- However a chat is used, and whatever its store refuses, its requests are those it owes. -/
theorem requested : r.Requested where
  first ts t us h p := r.starts?_iff h p
  requests := r.requests_eq
  once := r.ledger.once.sublist ((due_sublist r.turns).map _)
  sent t ht p hdue := by
    obtain ⟨session, hr, hid⟩ := Turn.requests_of_due? hdue
    rw [(r.steady_before ht).config] at hr hid
    exact ⟨session, hr, session.canonical, Session.Store.id?_eq_some.mp hid⟩
  silent _ _ hdue := Turn.requests_of_not_due? hdue
  input ts t us h p hdue := by
    obtain ⟨ms, rfl, ht⟩ := r.turns_at h
    obtain ⟨hp, -⟩ := Turn.starts?_eq_some.mp (Turn.due?_eq_some.mp hdue).1
    obtain ⟨k, -, hk, -⟩ := Turn.handed hp
    have hchat : t.before = (r.playing ms).chat := congrArg Host.chat ht
    rw [hchat] at hk
    exact (r.playing ms).input_of_pending (List.mem_of_getElem? hk)
  refused _ _ _ hs hdue := Turn.ended?_of_not_due? hs hdue
  waiting := r.ledger.waiting

end Host.Run

end Parley

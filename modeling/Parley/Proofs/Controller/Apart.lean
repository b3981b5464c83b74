import Mathlib.Data.List.Forall2
import Parley.Proofs.Controller.Conversation
import Parley.Proofs.Controller.Polling

/-!
# Chats that differ in what became of one exchange

Exchange `i` has got one answer here and another there. Nothing but the reply to it is different then, and nothing that
is done later brings the two chats further apart.

* `Tracker.Apart`, `Transcript.besides`, `Controller.Apart` : what is the same of the trackers, of the entries and of
  the chats;
* `Effect.Like`, `Step.Apart` : steps of the two chats that come to the same;
* `send_apart`, `key_apart`, `load_apart`, `drop_apart`, `sessionId_apart`, `resetSession_apart`, `type_apart`,
  `store_apart`, `view_apart`, `poll_apart` : the same operation comes to the same on both sides;
* `complete_apart`, `complete_answered` : another exchange ends alike, and `i` itself ends on both sides.
-/

namespace Parley

/-! ## Trackers -/

namespace Exchange.Tracker

variable {i j : Id} {t t' : Tracker}

/-- Two trackers that differ at most in how exchange `i` ended. -/
structure Apart (i : Id) (t t' : Tracker) : Prop where
  started : t'.started = t.started
  inFlight : t'.inFlight = t.inFlight
  others : ∀ j, j ≠ i → t'.state? j = t.state? j
  /-- It is over on both sides, or on neither. -/
  settled : (t'.state? i).map State.isSettled = (t.state? i).map State.isSettled

theorem Apart.refl (i : Id) (t : Tracker) : Apart i t t := ⟨rfl, rfl, fun _ _ => rfl, rfl⟩

/-- The exchange that is begun awaits its response, unless its id has a state already. -/
theorem lookup_start (t : Tracker) (j : Id) :
    t.start.2.state? j = (t.state? j).or (if j = t.started + 1 then some .awaiting else none) := by
  unfold state? Tracker.start
  rw [List.lookup_append, List.lookup_cons]
  by_cases hj : j = t.started + 1
  · subst hj
    simp
  · have hb : (j == t.started + 1) = false := by simpa using hj
    simp [hb, hj]

theorem Apart.start (h : Apart i t t') : Apart i t.start.2 t'.start.2 := by
  refine ⟨?_, ?_, fun j hj => ?_, ?_⟩
  · exact congrArg (· + 1) h.started
  · exact congrArg (· + 1) h.inFlight
  · rw [lookup_start, lookup_start, h.others j hj, h.started]
  · rw [lookup_start, lookup_start, h.started]
    have hi := h.settled
    generalize t'.state? i = s', t.state? i = s at hi
    cases s with
    | none => cases s' with
      | none => rfl
      | some s' => exact nomatch hi
    | some s => cases s' with
      | none => exact nomatch hi
      | some s' => exact hi

/-- Whether the outcome of another exchange is recorded or rejected, it is so on both sides. -/
theorem Apart.settle (h : Apart i t t') (hj : j ≠ i) (outcome : Outcome) :
    (∃ r, t.settle j outcome = .error r ∧ t'.settle j outcome = .error r) ∨
      ∃ u u', t.settle j outcome = .ok u ∧ t'.settle j outcome = .ok u' ∧ Apart i u u' := by
  have hstate := h.others j hj
  unfold Tracker.settle
  rw [hstate]
  cases hs : t.state? j with
  | none => exact .inl ⟨_, rfl, rfl⟩
  | some s =>
    dsimp only
    split
    · exact .inl ⟨_, rfl, rfl⟩
    · refine .inr ⟨_, _, rfl, rfl, h.started, congrArg (· - 1) h.inFlight, fun k hk => ?_, ?_⟩
      · rw [state?_replace (hstate.trans hs), state?_replace hs, h.others k hk]
      · rw [state?_replace (hstate.trans hs), state?_replace hs, if_neg hj.symm, if_neg hj.symm]
        exact h.settled

/-- While exchange `i` awaits its response on one side it does so on the other. -/
theorem Apart.awaiting (h : Apart i t t') (hi : t.state? i = some .awaiting) : t'.state? i = some .awaiting := by
  have hs := h.settled
  rw [hi] at hs
  obtain ⟨s, hs', hsettled⟩ := Option.map_eq_some_iff.mp hs
  cases s with
  | awaiting => exact hs'
  | delivered | failed => exact nomatch hsettled

/-- Exchange `i` may end in two ways. -/
theorem Apart.settled_both (h : Apart i t t') (hi : t.state? i = some .awaiting) (outcome outcome' : Outcome) :
    Apart i (t.settled i outcome) (t'.settled i outcome') := by
  refine ⟨h.started, congrArg (· - 1) h.inFlight, fun j hj => ?_, ?_⟩
  · rw [state?_settled hi, state?_settled (h.awaiting hi), if_neg hj, if_neg hj]
    exact h.others j hj
  · rw [state?_settled hi, state?_settled (h.awaiting hi), if_pos rfl, if_pos rfl]
    exact congrArg some ((Outcome.isSettled_state _).trans (Outcome.isSettled_state _).symm)

end Exchange.Tracker

/-! ## Entries -/

namespace Transcript

def Entry.replies (i : Exchange.Id) (e : Entry) : Bool := e.exchange == some i && e.role != .user

/-- What is said, except in the reply to exchange `i`. -/
def besides (i : Exchange.Id) (es : List Entry) : List (Role × Body × Option Exchange.Id) :=
  (es.filter fun e => !e.replies i).map Entry.said

variable {i : Exchange.Id} {es es' fs fs' : List Entry}

theorem besides_append (i : Exchange.Id) (es fs : List Entry) :
    besides i (es ++ fs) = besides i es ++ besides i fs := by
  rw [besides, List.filter_append, List.map_append]
  rfl

theorem besides_congr (h : fs'.map Entry.said = fs.map Entry.said) : besides i fs' = besides i fs := by
  have hp : ∀ es : List Entry, besides i es =
      (es.map Entry.said).filter fun s => !(s.2.2 == some i && s.1 != .user) := fun es => by
    rw [List.filter_map]
    rfl
  rw [hp, hp, h]

theorem besides_append_congr (h : besides i es' = besides i es) (hf : fs'.map Entry.said = fs.map Entry.said) :
    besides i (es' ++ fs') = besides i (es ++ fs) := by
  rw [besides_append, besides_append, h, besides_congr hf]

/-- A reply to exchange `i` is passed over. -/
theorem besides_append_reply (h : ∀ e ∈ fs, e.replies i = true) : besides i (es ++ fs) = besides i es := by
  have hf : fs.filter (fun e => !e.replies i) = [] := List.filter_eq_nil_iff.mpr fun e he => by simp [h e he]
  have hb : besides i fs = [] := by
    rw [besides, hf]
    rfl
  rw [besides_append, hb, List.append_nil]

end Transcript

/-! ## Chats -/

namespace Controller

open Transcript (Entry besides)

variable {i : Exchange.Id} {c c' : Controller}

/-- Two chats that differ at most in how exchange `i` ended, and in the reply to it. -/
inductive Apart (i : Exchange.Id) (c : Controller) : Controller → Prop
  | intro {tracker : Exchange.Tracker} {transcript : Transcript} (ht : c.tracker.Apart i tracker)
      (he : besides i transcript.entries = besides i c.transcript.entries) :
      Apart i c { c with tracker, transcript }

theorem Apart.pending_eq (h : Apart i c c') : c'.pending = c.pending := by
  cases h
  rfl

/-- Effects that differ at most in the numbers of entries and in how far is scrolled. -/
inductive Effect.Like : Effect → Effect → Prop
  | same (e : Effect) : Like e e
  | rendered {e e' : Entry} (said : e'.said = e.said) : Like (.view (.render e)) (.view (.render e'))
  | scrolled (offset offset' : Binary64) : Like (.view (.scrollTo offset)) (.view (.scrollTo offset'))

theorem likes_refl (es : List Effect) : List.Forall₂ Effect.Like es es := List.forall₂_same.mpr fun e _ => .same e

theorem Effect.Like.notice? {e e' : Effect} (h : Like e e') : e'.notice? = e.notice? := by
  cases h <;> rfl

theorem Effect.Like.request? {e e' : Effect} (h : Like e e') : e'.request? = e.request? := by
  cases h <;> rfl

/-- Steps with the same result that leave the chats as far apart as they were. -/
structure Step.Apart {α : Type} (i : Exchange.Id) (s s' : Step α) : Prop where
  result : s'.result = s.result
  state : Controller.Apart i s.state s'.state
  effects : List.Forall₂ Effect.Like s.effects s'.effects

theorem Step.Apart.preceded {α : Type} {s s' : Step α} (h : Step.Apart i s s') (before : List Effect) :
    Step.Apart i (s.preceded before) (s'.preceded before) :=
  ⟨h.result, h.state, List.rel_append (likes_refl before) h.effects⟩

/-- What is typed is submitted, or passed over, on both sides. -/
theorem send_apart (h : Apart i c c') : Step.Apart i c.send c'.send := by
  cases h with
  | @intro tracker transcript ht he =>
  let c' : Controller := { c with tracker, transcript }
  cases hb : Text.isBlankText c.input with
  | true =>
    have hb' : Text.isBlankText c'.input = true := hb
    rw [send_blank hb, send_blank hb']
    exact ⟨rfl, .intro ht he, likes_refl _⟩
  | false =>
    have hb' : Text.isBlankText c'.input = false := hb
    have hid : c'.next.exchange = c.next.exchange := congrArg (· + 1) ht.started
    have hsaid : c'.userEntry.said = c.userEntry.said := by
      show (_, _, some c'.next.exchange) = _
      rw [hid]
      rfl
    have hpending : c'.next = c.next := congrArg (Pending.mk · c.input .unstarted) hid
    rw [send_typed hb, send_typed hb', hid, hpending]
    refine ⟨rfl, .intro ht.start ?_, .cons (.rendered hsaid) (likes_refl _)⟩
    exact Transcript.besides_append_congr he rfl

/-- The end is brought into view on both sides. -/
theorem load_apart (h : Apart i c c') : Step.Apart i c.load c'.load := by
  cases h with
  | intro ht he => exact ⟨rfl, .intro ht he, .cons (.scrolled _ _) .nil⟩

theorem key_apart (h : Apart i c c') (k : String) : Step.Apart i (c.key k) (c'.key k) := by
  obtain ⟨result, state, effects⟩ := send_apart h
  unfold key
  split
  · exact ⟨congrArg (KeyOutcome.mk true) result, state, effects⟩
  · exact ⟨rfl, h, .nil⟩

theorem drop_apart (h : Apart i c c') (k : Nat) : Step.Apart i (c.drop k) (c'.drop k) := by
  cases h with
  | intro ht he => exact ⟨rfl, .intro ht he, .nil⟩

theorem sessionId_apart (h : Apart i c c') (fresh : SessionId) :
    Step.Apart i (c.sessionId fresh) (c'.sessionId fresh) := by
  cases h with
  | intro ht he => exact ⟨rfl, .intro ht he, likes_refl _⟩

theorem resetSession_apart (h : Apart i c c') : Step.Apart i c.resetSession c'.resetSession := by
  cases h with
  | intro ht he => exact ⟨rfl, .intro ht he, likes_refl _⟩

theorem type_apart (h : Apart i c c') (text : String) :
    Step.Apart i ⟨(), c.type text, []⟩ ⟨(), c'.type text, []⟩ := by
  cases h with
  | intro ht he => exact ⟨rfl, .intro ht he, .nil⟩

theorem store_apart (h : Apart i c c') (f : Session.Store → Session.Store) :
    Step.Apart i ⟨(), { c with store := f c.store }, []⟩ ⟨(), { c' with store := f c'.store }, []⟩ := by
  cases h with
  | intro ht he => exact ⟨rfl, .intro ht he, .nil⟩

theorem view_apart (h : Apart i c c') (v v' : Transcript.View) :
    Step.Apart i ⟨(), { c with transcript := { c.transcript with view := v } }, []⟩
      ⟨(), { c' with transcript := { c'.transcript with view := v' } }, []⟩ := by
  cases h with
  | intro ht he => exact ⟨rfl, .intro ht he, .nil⟩

theorem Apart.setPhase (h : Apart i c c') (k : Nat) (phase : Phase) :
    Apart i (c.setPhase k phase) (c'.setPhase k phase) := by
  cases h with
  | intro ht he => exact .intro ht he

/-- The outcome of another exchange is recorded on both sides, or rejected. -/
theorem settle_apart (h : Apart i c c') {j : Exchange.Id} (hj : j ≠ i) (outcome : Exchange.Outcome) :
    Step.Apart i (c.settle j outcome) (c'.settle j outcome) := by
  cases h with
  | intro ht he =>
  unfold settle
  rcases ht.settle hj outcome with ⟨r, h, h'⟩ | ⟨u, u', h, h', hu⟩
  · simp only [h, h']
    exact ⟨rfl, .intro ht he, likes_refl _⟩
  · simp only [h, h']
    exact ⟨rfl, .intro hu he, .nil⟩

/-- The transcript with a reply, and its end in view. -/
def replied (c : Controller) (id : Exchange.Id) (body : Json.Value) : Transcript :=
  ((c.transcript.appendBot (c.renderer.render (Exchange.replyText body)) (some id)).1.appendSpacer
    (some id)).1.scrollToBottom.1

theorem entries_replied (c : Controller) (id : Exchange.Id) (body : Json.Value) :
    (c.replied id body).entries = c.transcript.entries ++ [c.botEntry id body, c.spacerEntry id] := by
  rw [spacerEntry_eq c id (c.renderer.render (Exchange.replyText body))]
  show c.transcript.entries ++ [_] ++ [_] = _
  rw [List.append_assoc]
  rfl

theorem deliver_eq (c : Controller) (id : Exchange.Id) (body : Json.Value) : ∃ offset,
    c.deliver id body =
      ⟨⟨id, Exchange.replyText body, c.renderer.render (Exchange.replyText body)⟩,
        (settle { c with transcript := c.replied id body } id .delivered).state,
        [.log (Event.answered id body), .view (.render (c.botEntry id body)), .view (.render (c.spacerEntry id)),
          .view (.scrollTo offset)] ++ (settle { c with transcript := c.replied id body } id .delivered).effects⟩ := by
  rw [spacerEntry_eq c id (c.renderer.render (Exchange.replyText body))]
  exact ⟨_, rfl⟩

theorem deliver_apart (h : Apart i c c') {j : Exchange.Id} (hj : j ≠ i) (body : Json.Value) :
    Step.Apart i (c.deliver j body) (c'.deliver j body) := by
  obtain ⟨offset, hd⟩ := deliver_eq c j body
  obtain ⟨offset', hd'⟩ := deliver_eq c' j body
  cases h with
  | @intro tracker transcript ht he =>
  let c' : Controller := { c with tracker, transcript }
  have hshown : Apart i { c with transcript := c.replied j body } { c' with transcript := c'.replied j body } := by
    refine .intro ht ?_
    rw [entries_replied, entries_replied]
    exact Transcript.besides_append_congr he rfl
  have hs := settle_apart hshown hj .delivered
  rw [hd, hd']
  refine ⟨rfl, hs.state, List.rel_append ?_ hs.effects⟩
  exact .cons (.same _) (.cons (.rendered rfl) (.cons (.rendered rfl) (.cons (.scrolled _ _) .nil)))

theorem fail_apart (h : Apart i c c') {j : Exchange.Id} (hj : j ≠ i) (e : Exchange.Error) :
    Step.Apart i (c.fail j e) (c'.fail j e) := by
  have hs := settle_apart h hj (.failed e.message)
  have hm : c'.config.failureMessage = c.config.failureMessage := by
    cases h
    rfl
  refine ⟨rfl, hs.state, List.rel_append ?_ hs.effects⟩
  rw [hm]
  exact likes_refl _

theorem complete_apart (h : Apart i c c') (k : Nat) {j : Exchange.Id} (hj : j ≠ i) (a : Exchange.Arrival) :
    Step.Apart i (c.complete k j a) (c'.complete k j a) := by
  unfold complete
  dsimp only
  cases a.result with
  | ok body =>
    obtain ⟨result, state, effects⟩ := deliver_apart (h.setPhase k .gone) hj body
    exact ⟨congrArg Progress.delivered result, state, List.rel_append (likes_refl _) effects⟩
  | error e =>
    obtain ⟨result, state, effects⟩ := fail_apart (h.setPhase k .gone) hj e
    exact ⟨congrArg Progress.failed result, state, List.rel_append (likes_refl _) effects⟩

/-! ### Exchange `i` itself -/

/-- When exchange `i` ends, what arrived is its outcome, and nothing is said but the reply to it. -/
theorem complete_awaiting (hi : c.tracker.state? i = some .awaiting) (k : Nat) (a : Exchange.Arrival) :
    ∃ transcript, besides i transcript.entries = besides i c.transcript.entries ∧
      (c.complete k i a).state =
        { c.setPhase k .gone with tracker := c.tracker.settled i a.outcome, transcript } := by
  have hr : ∀ outcome, record (c.setPhase k .gone).tracker i outcome = c.tracker.settled i outcome :=
    fun outcome => record_awaiting hi outcome
  unfold complete Exchange.Arrival.outcome
  dsimp only
  cases a.result with
  | ok body =>
    obtain ⟨offset, hd⟩ := deliver_eq (c.setPhase k .gone) i body
    refine ⟨(c.setPhase k .gone).replied i body, ?_, ?_⟩
    · rw [entries_replied]
      refine Transcript.besides_append_reply fun e he => ?_
      rcases List.mem_cons.mp he with rfl | he
      · simp [botEntry, Entry.replies]
      · obtain rfl := List.mem_singleton.mp he
        simp [spacerEntry, Entry.replies]
    · show ((c.setPhase k .gone).deliver i body).state = _
      rw [hd, settle_state, hr]
  | error e =>
    refine ⟨c.transcript, rfl, ?_⟩
    show (settle _ i (.failed e.message)).state = _
    rw [settle_state, hr]
    rfl

/-- Whatever arrives for exchange `i`, the chats do not come further apart. -/
theorem complete_answered (h : Apart i c c') (hi : c.tracker.state? i = some .awaiting) (k : Nat)
    (a a' : Exchange.Arrival) : Apart i (c.complete k i a).state (c'.complete k i a').state := by
  cases h with
  | @intro tracker transcript ht he =>
  let c' : Controller := { c with tracker, transcript }
  have hi' : c'.tracker.state? i = some .awaiting := ht.awaiting hi
  obtain ⟨entries, hb, hs⟩ := complete_awaiting hi k a
  obtain ⟨entries', hb', hs'⟩ := complete_awaiting hi' k a'
  rw [hs, hs']
  refine .intro (ht.settled_both hi a.outcome a'.outcome) ?_
  exact hb'.trans (he.trans hb.symm)

/-- Exchange `i` ends on both sides, and the same is handed over. -/
structure Step.Parted (i : Exchange.Id) (s s' : Step Progress) : Prop where
  ends : s.result.returned?.isSome = true
  ends' : s'.result.returned?.isSome = true
  state : Controller.Apart i s.state s'.state
  requests : Effect.requests s'.effects = Effect.requests s.effects

theorem complete_parted (h : Apart i c c') (hi : c.tracker.state? i = some .awaiting) (k : Nat)
    (a a' : Exchange.Arrival) : Step.Parted i (c.complete k i a) (c'.complete k i a') := by
  refine ⟨?_, ?_, complete_answered h hi k a a', ?_⟩
  · rw [returned?_complete]
    rfl
  · rw [returned?_complete]
    rfl
  · rw [requests_complete, requests_complete]

theorem Step.Parted.preceded {s s' : Step Progress} (h : Step.Parted i s s') (before : List Effect) :
    Step.Parted i (s.preceded before) (s'.preceded before) := by
  refine ⟨h.ends, h.ends', h.state, ?_⟩
  show Effect.requests (before ++ s'.effects) = Effect.requests (before ++ s.effects)
  rw [Effect.requests_append, Effect.requests_append, h.requests]

theorem resume_apart (h : Apart i c c') (k : Nat) {j : Exchange.Id} (hi : j = i → c.tracker.state? i = some .awaiting)
    {answer answer' : Nat → Exchange.Request → Option Exchange.Arrival} {n : Nat} {q : Exchange.Request}
    (same : answer' n q = answer n q ∨ j = i ∧ (answer' n q).isSome = (answer n q).isSome) :
    Step.Apart i (c.resume answer k j n q) (c'.resume answer' k j n q) ∨
      j = i ∧ Step.Parted i (c.resume answer k j n q) (c'.resume answer' k j n q) := by
  cases ha : answer n q with
  | none =>
    have ha' : answer' n q = none := by
      rw [ha] at same
      rcases same with same | ⟨-, same⟩
      · exact same
      · exact Option.not_isSome_iff_eq_none.mp (by rw [same]; exact Bool.false_ne_true)
    rw [resume_none c k ha, resume_none c' k ha']
    exact .inl ⟨rfl, h, .nil⟩
  | some a =>
    obtain ⟨a', ha'⟩ : ∃ a', answer' n q = some a' := by
      rw [ha] at same
      rcases same with same | ⟨-, same⟩
      · exact ⟨a, same⟩
      · exact Option.isSome_iff_exists.mp same
    rw [resume_some c k ha, resume_some c' k ha']
    by_cases hj : j = i
    · subst hj
      exact .inr ⟨rfl, complete_parted h (hi rfl) k a a'⟩
    · have haa : a' = a := by
        rw [ha, ha'] at same
        rcases same with same | ⟨hji, -⟩
        · exact Option.some.inj same
        · exact absurd hji hj
      rw [haa]
      exact .inl (complete_apart h k hj a)

/-- Polling comes to the same on both sides, unless exchange `i` ends by it. -/
theorem poll_apart (h : Apart i c c') (hs : c.talk.Sound) (k : Nat) (fresh : SessionId)
    {answer answer' : Nat → Exchange.Request → Option Exchange.Arrival}
    (same : ∀ n q, c.asked? k fresh = some (n, q) → answer' n q = answer n q ∨
      (c.pending[k]?).map Pending.exchange = some i ∧ (answer' n q).isSome = (answer n q).isSome) :
    Step.Apart i (c.poll fresh answer k) (c'.poll fresh answer' k) ∨
      (c.pending[k]?).map Pending.exchange = some i ∧
        Step.Parted i (c.poll fresh answer k) (c'.poll fresh answer' k) := by
  have hc := h
  cases h with
  | @intro tracker transcript ht he =>
  let c' : Controller := { c with tracker, transcript }
  have live : ∀ p, c.pending[k]? = some p → p.phase ≠ .gone → p.exchange = i → c.tracker.state? i = some .awaiting :=
    fun p hp live hi => hi ▸ hs.awaited_at hp live
  have his : ∀ p j, c.pending[k]? = some p → (p.exchange = j ↔ (c.pending[k]?).map Pending.exchange = some j) :=
    fun p j hp => by
      rw [hp]
      exact Option.some_inj.symm
  generalize hstep : c.poll fresh answer k = s
  have hway := poll_polling c k fresh answer
  rw [hstep] at hway
  cases hway with
  | unknown absent =>
    rw [poll_unknown (c := c') absent]
    exact .inl ⟨rfl, hc, .nil⟩
  | gone hp phase =>
    rw [poll_gone (c := c') hp phase]
    exact .inl ⟨rfl, hc, .nil⟩
  | @refused p e log hp phase established =>
    have hlive := live p hp (by rw [phase]; exact Phase.noConfusion)
    rw [poll_refused (c := c') hp phase established]
    by_cases hi : p.exchange = i
    · rw [← his p i hp, hi]
      exact .inr ⟨rfl, (complete_parted hc (hlive hi) k _ _).preceded _⟩
    · exact .inl ((complete_apart hc k hi _).preceded _)
  | @started p session store log hp phase established =>
    have hlive := live p hp (by rw [phase]; exact Phase.noConfusion)
    have hsame := same _ _ (asked?_started hp phase established)
    rw [← his p i hp] at hsame ⊢
    rw [poll_started (c := c') hp phase established]
    have hh : Apart i (c.handing k store (c.requestOf p session)) (c'.handing k store (c'.requestOf p session)) :=
      .intro ht he
    exact (resume_apart hh k hlive hsame).imp (·.preceded _) fun ⟨hi, hparted⟩ => ⟨hi, hparted.preceded _⟩
  | @waiting p n q hp phase =>
    have hlive := live p hp (by rw [phase]; exact Phase.noConfusion)
    have hsame := same _ _ (asked?_waiting hp phase fresh)
    rw [← his p i hp] at hsame ⊢
    rw [poll_waiting (c := c') hp phase]
    exact resume_apart hc k hlive hsame

end Controller

end Parley

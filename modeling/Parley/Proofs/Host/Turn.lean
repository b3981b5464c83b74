import Parley.Controller.Host
import Parley.Proofs.Controller.Conversation
import Parley.Proofs.Runs

/-!
# One move of a host

What can be told of a turn from its move, its answer and its effects:

* `Turn.polled?`, `Turn.touched?`, `Turn.opened?` : the exchange that is polled, polled or dropped, or made;
* `Turn.submitted?` : the text of which an exchange is made, unless it is blank (`opened?_input`);
* `Turn.ended?`, `Turn.completed?` : the exchange that came to its end, or was delivered;
* `Turn.calls`, `Turn.rendered`, `Turn.notices`, `Turn.requests` : what was shown, and what was handed over.

`Turn.acts` : every move has the chat do one of a few things. `Turn.comes` : every turn comes to one deed of the chat,
and the deed tells all of this.
-/

namespace Parley

open Controller (Deed Does Pending Reply)

namespace Host

def next (h : Host) (m : Move) : Host := (h.step m).host

/-- The number under which an exchange was handed over. -/
def Answer.sent? : Answer → Option Nat
  | .sent k => k
  | .key o => o.sent
  | _ => none

def Answer.session? : Answer → Option SessionId
  | .session (.ok id) => some id
  | _ => none

end Host

namespace Turn

section Observers
variable (t : Turn Host Host.Move)

def outcome : Host.Outcome := t.state.step t.move

def before : Controller := t.state.chat

def after : Controller := t.outcome.host.chat

def polled? : Option Pending :=
  match t.move with
  | .poll k => t.before.pending[k]?
  | _ => none

def touched? : Option Exchange.Id :=
  match t.move with
  | .poll k | .drop k => (t.before.pending[k]?).map Pending.exchange
  | _ => none

def submitted? : Option String :=
  match t.move with
  | .send => some t.before.input
  | .key k => if Controller.isSubmitKey k then some t.before.input else none
  | _ => none

/-- The exchange that was made and handed over. -/
def opened? : Option Pending := t.outcome.answer.sent?.bind (t.after.pending[·]?)

/-- The exchange that came to its end, and what its polling returned. -/
def ended? : Option (Exchange.Id × Except Exchange.Error Reply) :=
  match t.polled?, t.outcome.answer with
  | some p, .progress (.delivered reply) => some (p.exchange, .ok reply)
  | some p, .progress (.failed e) => some (p.exchange, .error e)
  | _, _ => none

/-- What has arrived for the exchange that is polled. -/
def arrival? : Option Exchange.Arrival :=
  t.polled?.bind fun p => (t.before.asks? p).bind t.state.script.answer?

/-- The exchange that was delivered, and the response body of which its reply was made. -/
def completed? : Option (Exchange.Id × Json.Value) :=
  match t.ended?, t.arrival? with
  | some (id, .ok _), some ⟨_, .ok body⟩ => some (id, body)
  | _, _ => none

def loads : Bool :=
  match t.move with
  | .load => true
  | _ => false

def calls : List Transcript.ViewCall := Controller.Effect.calls t.outcome.effects

def rendered : List Transcript.Entry := t.calls.filterMap Transcript.ViewCall.entry?

def notices : List String := Controller.Effect.notices t.outcome.effects

def requests : List Exchange.Request := Controller.Effect.requests t.outcome.effects

end Observers

end Turn

/-! ## Kinds of moves -/

namespace Turn

/-- No exchange is polled or dropped, nothing was loaded, and no id was asked for. -/
structure Aside (t : Turn Host Host.Move) : Prop where
  polled : t.polled? = none
  touched : t.touched? = none
  loads : t.loads = false
  session : t.outcome.answer.session? = none

/-- What a move has the chat do. -/
inductive Acts (t : Turn Host Host.Move) : Prop
  /-- What was typed is submitted. -/
  | submits (aside : t.Aside) (chat : t.after = t.before.send.state)
      (effects : t.outcome.effects = t.before.send.effects) (answer : t.outcome.answer.sent? = t.before.send.result)
  | polls {k : Nat} {p : Pending} (move : t.move = .poll k) (polled : t.polled? = some p)
      (chat : t.after = (t.before.poll t.state.supply.fresh (fun n _ => t.state.script.answer? n) k).state)
      (effects : t.outcome.effects =
        (t.before.poll t.state.supply.fresh (fun n _ => t.state.script.answer? n) k).effects)
      (answer : t.outcome.answer =
        .progress (t.before.poll t.state.supply.fresh (fun n _ => t.state.script.answer? n) k).result)
  | drops {k : Nat} (move : t.move = .drop k)
  | loads (move : t.move = .load)
  | refuses {refusal : Session.Call → Option Session.Refusal} (move : t.move = .refuse refusal)
  | writes {key value : String} (move : t.move = .write key value)
  | asks (move : t.move = .sessionId) (chat : t.after = (t.before.sessionId t.state.supply.fresh).state)
  | resets (move : t.move = .resetSession)
  /-- Nothing is done that has to do with an exchange or with the store. -/
  | still (aside : t.Aside) (talk : t.after.talk = t.before.talk) (store : t.after.store = t.before.store)
      (sent : t.after.sent = t.before.sent) (effects : t.outcome.effects = []) (answer : t.outcome.answer.sent? = none)

theorem consume_chat (o : Host.Outcome) : (Host.consume o).host.chat = o.host.chat := by
  unfold Host.consume
  dsimp only
  split <;> rfl

theorem step_poll (h : Host) (k : Nat) :
    let s := h.chat.poll h.supply.fresh (fun n _ => h.script.answer? n) k
    (h.step (.poll k)).host.chat = s.state ∧ (h.step (.poll k)).effects = s.effects ∧
      (h.step (.poll k)).answer = .progress s.result := by
  obtain ⟨h', ho⟩ : ∃ h' : Host, h.step (.poll k) = Host.consume (h'.outcome
      (h.chat.poll h.supply.fresh (fun n _ => h.script.answer? n) k) .progress) := by
    unfold Host.step
    dsimp only
    split
    · exact ⟨h.ask, rfl⟩
    · exact ⟨h, rfl⟩
  rw [ho]
  exact ⟨consume_chat _, rfl, rfl⟩

theorem poll_acts (h : Host) (k : Nat) : Acts ⟨h, .poll k⟩ := by
  obtain ⟨chat, effects, answer⟩ := step_poll h k
  have hpolled : Turn.polled? ⟨h, .poll k⟩ = h.chat.pending[k]? := rfl
  cases hk : h.chat.pending[k]? with
  | some p =>
    rw [hk] at hpolled
    exact .polls rfl hpolled chat effects answer
  | none =>
    rw [hk] at hpolled
    have hpoll : h.chat.poll h.supply.fresh (fun n _ => h.script.answer? n) k = ⟨.unknown, h.chat, []⟩ := by
      rw [Controller.poll, hk]
    rw [hpoll] at chat effects answer
    refine .still ⟨hpolled, congrArg (Option.map Pending.exchange) hk, rfl, ?_⟩ ?_ ?_ ?_ effects ?_
    · exact congrArg Host.Answer.session? answer
    · exact congrArg Controller.talk chat
    · exact congrArg Controller.store chat
    · exact congrArg Controller.sent chat
    · exact congrArg Host.Answer.sent? answer

theorem key_acts (h : Host) (k : String) : Acts ⟨h, .key k⟩ := by
  cases hk : Controller.isSubmitKey k with
  | true =>
    have ho : h.step (.key k) = h.outcome _ .key := congrArg (h.outcome · .key) (Controller.key_submit hk h.chat)
    refine .submits ⟨rfl, rfl, rfl, ?_⟩ ?_ ?_ ?_
    · exact congrArg (·.answer.session?) ho
    · exact congrArg (·.host.chat) ho
    · exact congrArg (·.effects) ho
    · exact congrArg (·.answer.sent?) ho
  | false =>
    have ho : h.step (.key k) = h.outcome _ .key := congrArg (h.outcome · .key) (Controller.key_other hk h.chat)
    refine .still ⟨rfl, rfl, rfl, ?_⟩ ?_ ?_ ?_ ?_ ?_
    · exact congrArg (·.answer.session?) ho
    · exact congrArg (·.host.chat.talk) ho
    · exact congrArg (·.host.chat.store) ho
    · exact congrArg (·.host.chat.sent) ho
    · exact congrArg (·.effects) ho
    · exact congrArg (·.answer.sent?) ho

theorem release_acts (h : Host) (n : Nat) (a : Exchange.Arrival) : Acts ⟨h, .release n a⟩ := by
  obtain ⟨b, script, ho⟩ : ∃ b script, h.step (.release n a) = ⟨.found b, { h with script }, []⟩ := by
    unfold Host.step
    dsimp only
    split
    · exact ⟨true, _, rfl⟩
    · exact ⟨false, _, rfl⟩
  refine .still ⟨rfl, rfl, rfl, ?_⟩ ?_ ?_ ?_ ?_ ?_
  · exact congrArg (·.answer.session?) ho
  · exact congrArg (·.host.chat.talk) ho
  · exact congrArg (·.host.chat.store) ho
  · exact congrArg (·.host.chat.sent) ho
  · exact congrArg (·.effects) ho
  · exact congrArg (·.answer.sent?) ho

theorem acts (t : Turn Host Host.Move) : t.Acts := by
  obtain ⟨h, m⟩ := t
  cases m with
  | type | prepare | resize => exact .still ⟨rfl, rfl, rfl, rfl⟩ rfl rfl rfl rfl rfl
  | send => exact .submits ⟨rfl, rfl, rfl, rfl⟩ rfl rfl rfl
  | key k => exact key_acts h k
  | poll k => exact poll_acts h k
  | drop k => exact .drops rfl
  | release n a => exact release_acts h n a
  | load => exact .loads rfl
  | refuse refusal => exact .refuses rfl
  | write key value => exact .writes rfl
  | sessionId => exact .asks rfl (consume_chat _)
  | resetSession => exact .resets rfl

end Turn

/-! ## The deed of a turn -/

namespace Controller.Deed

/-- What the polling returned that came to a deed of `c`. -/
def ended? (c : Controller) : Deed → Option (Exchange.Id × Except Exchange.Error Reply)
  | .delivered id body =>
    some (id, .ok ⟨id, Exchange.replyText body, c.renderer.render (Exchange.replyText body)⟩)
  | .failed id e => some (id, .error e)
  | _ => none

def completed? : Deed → Option (Exchange.Id × Json.Value)
  | .delivered id body => some (id, body)
  | _ => none

def polls? : Deed → Option Exchange.Id
  | .delivered id _ | .failed id _ => some id
  | _ => none

end Controller.Deed

namespace Turn

variable {t : Turn Host Host.Move}

/-- A deed of the chat tells what can be seen of a turn. -/
structure Comes (t : Turn Host Host.Move) (d : Deed) : Prop where
  does : Does t.before d t.after.talk t.calls t.notices
  opened : t.opened? = d.opened?
  ended : t.ended? = d.ended? t.before
  completed : t.completed? = d.completed?
  polled : ∀ id, d.polls? = some id → t.polled?.map Pending.exchange = some id
  scrolls : d.scrolls = (t.completed?.isSome || t.loads)

theorem polled?_eq_some {p : Pending} (h : t.polled? = some p) :
    ∃ k, t.move = .poll k ∧ t.before.pending[k]? = some p := by
  unfold polled? at h
  split at h
  · next k hm => exact ⟨k, hm, h⟩
  · cases h

theorem completed?_of_ended? (he : t.ended? = none) : t.completed? = none := by
  unfold completed?
  rw [he]

theorem ended?_of_polled? (hp : t.polled? = none) : t.ended? = none := by
  unfold ended?
  rw [hp]

theorem comes_quiet (h : Does t.before .quiet t.after.talk t.calls t.notices) (ho : t.opened? = none)
    (he : t.ended? = none) (hl : t.loads = false) : t.Comes .quiet := by
  have hc := completed?_of_ended? he
  refine ⟨h, ho, he, hc, fun _ hid => (nomatch hid), ?_⟩
  rw [hc, hl]
  rfl

theorem opened?_of_sent? (hs : t.outcome.answer.sent? = none) : t.opened? = none := by
  unfold opened?
  rw [hs]
  rfl

/-- An exchange is made of whatever is submitted and not blank. -/
theorem opened?_input (t : Turn Host Host.Move) :
    t.opened?.map Pending.input = t.submitted?.filter fun text => !Text.isBlankText text := by
  have hsend : (t.before.send.result.bind (t.before.send.state.pending[·]?)).map Pending.input =
      (some t.before.input).filter fun text => !Text.isBlankText text := by
    rw [Option.filter_some]
    cases hb : Text.isBlankText t.before.input with
    | true =>
      rw [Controller.send_blank hb]
      rfl
    | false =>
      rw [Controller.send_typed hb]
      exact congrArg (Option.map Pending.input) List.getElem?_concat_length
  have hnone : t.outcome.answer.sent? = none → t.submitted? = none → t.opened?.map Pending.input =
      t.submitted?.filter fun text => !Text.isBlankText text := fun hs hm => by
    rw [opened?_of_sent? hs, hm]
    rfl
  obtain ⟨h, m⟩ := t
  cases m with
  | send => exact hsend
  | key k =>
    cases hk : Controller.isSubmitKey k with
    | true =>
      have ho : h.step (.key k) = h.outcome _ .key := congrArg (h.outcome · .key) (Controller.key_submit hk h.chat)
      have hm : Turn.submitted? ⟨h, .key k⟩ = some h.chat.input := if_pos hk
      rw [hm, opened?, outcome, after, outcome, ho]
      exact hsend
    | false =>
      have ho : h.step (.key k) = h.outcome _ .key := congrArg (h.outcome · .key) (Controller.key_other hk h.chat)
      exact hnone (congrArg (·.answer.sent?) ho) (if_neg (by rw [hk]; exact Bool.false_ne_true))
  | poll k => exact hnone (congrArg Host.Answer.sent? (step_poll h k).2.2) rfl
  | release n a =>
    refine hnone ?_ rfl
    unfold Turn.outcome Host.step
    dsimp only
    split <;> rfl
  | _ => exact hnone rfl rfl

/-- A turn that leaves the conversation as it is, and shows nothing. -/
theorem comes_still (ht : t.after.talk = t.before.talk) (hc : t.calls = []) (hn : t.notices = [])
    (hs : t.outcome.answer.sent? = none) (hp : t.polled? = none) (hl : t.loads = false) : ∃ d, t.Comes d := by
  refine ⟨.quiet, comes_quiet ?_ (opened?_of_sent? hs) (ended?_of_polled? hp) hl⟩
  rw [ht, hc, hn]
  exact .quiet

/-- A submission makes an exchange, unless the typed text is blank. -/
theorem comes_send (hc : t.after = t.before.send.state) (he : t.outcome.effects = t.before.send.effects)
    (ha : t.outcome.answer.sent? = t.before.send.result) (hp : t.polled? = none) (hl : t.loads = false) :
    ∃ d, t.Comes d := by
  have ho : t.opened? = t.before.send.result.bind (t.after.pending[·]?) := congrArg (Option.bind · _) ha
  have hend := ended?_of_polled? hp
  cases hb : Text.isBlankText t.before.input with
  | true =>
    rw [Controller.send_blank hb] at hc he ho
    refine ⟨.quiet, comes_quiet ?_ ho hend hl⟩
    rw [hc, calls, notices, he]
    exact .quiet
  | false =>
    obtain ⟨hr, hd⟩ := Controller.send_does hb
    have hcs : t.calls = Controller.Effect.calls t.before.send.effects := congrArg _ he
    have hns : t.notices = Controller.Effect.notices t.before.send.effects := congrArg _ he
    rw [← hc, ← hcs, ← hns] at hd
    have hpending : t.after.pending = t.before.pending ++ [t.before.next] := hd.pending_opened rfl
    have hcompleted := completed?_of_ended? hend
    refine ⟨.opened t.before.next, hd, ?_, hend, hcompleted, fun _ hid => (nomatch hid), ?_⟩
    · rw [ho, hr, hpending]
      exact List.getElem?_concat_length
    · rw [hcompleted, hl]
      rfl

theorem comes_poll {k : Nat} (hm : t.move = .poll k)
    (hc : t.after = (t.before.poll t.state.supply.fresh (fun n _ => t.state.script.answer? n) k).state)
    (he : t.outcome.effects =
      (t.before.poll t.state.supply.fresh (fun n _ => t.state.script.answer? n) k).effects)
    (ha : t.outcome.answer =
      .progress (t.before.poll t.state.supply.fresh (fun n _ => t.state.script.answer? n) k).result) :
    ∃ d, t.Comes d := by
  obtain ⟨d, hp, hd⟩ :=
    Controller.poll_does t.before t.state.supply.fresh (fun n _ => t.state.script.answer? n) k
  rw [← hc, ← he] at hd
  have ho : t.opened? = none := opened?_of_sent? (congrArg Host.Answer.sent? ha)
  have hpolled : t.polled? = t.before.pending[k]? := by
    rw [polled?, hm]
  have hl : t.loads = false := by
    rw [loads, hm]
  refine ⟨d, ?_⟩
  generalize (t.before.poll _ _ k).result = result at hp ha
  cases hp with
  | idle hi =>
    refine comes_quiet hd ho ?_ hl
    unfold ended?
    rw [ha]
    obtain rfl | rfl | rfl := hi <;> split <;> simp_all
  | @delivered p n r log body hp hn harr =>
    rw [hp] at hpolled
    have hended : t.ended? = (Deed.delivered p.exchange body).ended? t.before := by
      unfold ended?
      rw [hpolled, ha]
      rfl
    have harrival : t.arrival? = some ⟨log, .ok body⟩ := by
      unfold arrival?
      rw [hpolled]
      show (t.before.asks? p).bind t.state.script.answer? = _
      rw [hn]
      exact harr
    have hcompleted : t.completed? = some (p.exchange, body) := by
      unfold completed?
      rw [hended, harrival]
      rfl
    refine ⟨hd, ho, hended, hcompleted, fun id hid => ?_, ?_⟩
    · rw [hpolled]
      exact hid
    · rw [hcompleted]
      rfl
  | @failed p e hp =>
    rw [hp] at hpolled
    have hended : t.ended? = some (p.exchange, .error e) := by
      unfold ended?
      rw [hpolled, ha]
    have hcompleted : t.completed? = none := by
      unfold completed?
      rw [hended]
    refine ⟨hd, ho, hended, hcompleted, fun id hid => ?_, ?_⟩
    · rw [hpolled]
      exact hid
    · rw [hcompleted, hl]
      rfl

theorem comes (t : Turn Host Host.Move) : ∃ d, t.Comes d := by
  cases t.acts with
  | submits aside chat effects answer => exact comes_send chat effects answer aside.polled aside.loads
  | polls move _ chat effects answer => exact comes_poll move chat effects answer
  | still aside talk _ _ effects answer =>
    refine comes_still talk ?_ ?_ answer aside.polled aside.loads
    · exact congrArg Controller.Effect.calls effects
    · exact congrArg Controller.Effect.notices effects
  | @drops k move =>
    obtain ⟨h, m⟩ := t
    cases move
    exact ⟨.quiet, comes_quiet (Controller.drop_does h.chat k) rfl rfl rfl⟩
  | loads move =>
    obtain ⟨h, m⟩ := t
    cases move
    exact ⟨.scrolled, Controller.load_does h.chat, rfl, rfl, rfl, fun _ hid => (nomatch hid), rfl⟩
  | refuses move | writes move =>
    obtain ⟨h, m⟩ := t
    cases move
    exact ⟨.quiet, comes_quiet .quiet rfl rfl rfl⟩
  | asks move chat =>
    obtain ⟨h, m⟩ := t
    cases move
    exact comes_still ((congrArg Controller.talk chat).trans rfl) (Controller.Effect.calls_log _)
      (Controller.Effect.notices_log _) rfl rfl rfl
  | resets move =>
    obtain ⟨h, m⟩ := t
    cases move
    exact comes_still rfl (Controller.Effect.calls_log _) (Controller.Effect.notices_log _) rfl rfl rfl

end Turn

end Parley

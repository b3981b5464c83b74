import Parley.Proofs.Controller.Deed
import Parley.Proofs.Exchange.Tracker

/-!
# What deeds do to a sound conversation

* `Talk.Sound` : the books of a conversation agree with each other: every exchange handed out is on record, whoever is
  live awaits its response, the counter is right, and entries are numbered; it holds at the start (`sound_start`) and
  after every deed (`Does.sound`);
* `Does.settles` : whoever comes to its end awaited its response, so its outcome is recorded;
* `Does.state?` : what a deed makes of the state of every exchange;
* `Does.said`, `Does.entries`, `Does.calls` : what is added to the transcript, and what is asked of the surface;
* `Does.notices`, `Does.count_isFailed` : one notice for every failure;
* `Talk.Goes`, `Does.goes` : nothing that was handed over or settled is lost.
-/

namespace Parley.Transcript

def Entry.said (e : Entry) : Role × Body × Option Exchange.Id := (e.role, e.body, e.exchange)

def ViewCall.entry? : ViewCall → Option Entry
  | .render e => some e
  | .scrollTo _ => none

end Parley.Transcript

namespace Parley.Controller

open Transcript (ViewCall)

/-! ## Sound conversations -/

/-- The books of a conversation agree with each other. -/
structure Talk.Sound (t : Talk) : Prop where
  numbered : t.tracker.Numbered
  balanced : t.tracker.Balanced
  exchanges : t.pending.map Pending.exchange = List.range' 1 t.tracker.started
  awaited : ∀ p ∈ t.pending, p.phase ≠ .gone → t.tracker.state? p.exchange = some .awaiting
  entryIds : t.entries.map Transcript.Entry.id = List.range' 1 t.entries.length

theorem sound_start (config : Config) (renderer : Markdown.Renderer) (store : Session.Store)
    (view : Transcript.View) : (start config renderer store view).talk.Sound :=
  ⟨Exchange.Tracker.numbered_new, Exchange.Tracker.balanced_new, rfl, fun _ h _ => (List.not_mem_nil h).elim, rfl⟩

def Deed.outcome? : Deed → Option (Exchange.Id × Exchange.Outcome)
  | .delivered id _ => some (id, .delivered)
  | .failed id e => some (id, .failed e.message)
  | _ => none

/-- The exchange whose state changes, and its state afterwards. -/
def Deed.mark? : Deed → Option (Exchange.Id × Exchange.State)
  | .opened p => some (p.exchange, .awaiting)
  | d => d.outcome?.map fun o => (o.1, o.2.state)

section Sound
variable {c : Controller} {t : Talk} {d : Deed} {vs : List ViewCall} {ns : List String}

theorem Talk.Sound.exchange_eq (h : t.Sound) {k : Nat} {p : Pending} (hp : t.pending[k]? = some p) :
    p.exchange = k + 1 := by
  have hk : (t.pending.map Pending.exchange)[k]? = some p.exchange := by
    rw [List.getElem?_map, hp]
    rfl
  rw [h.exchanges] at hk
  obtain ⟨hlt, -⟩ := List.getElem?_eq_some_iff.mp hk
  rw [List.getElem?_range' (by simpa using hlt)] at hk
  exact (Option.some.inj hk).symm.trans (by omega)

theorem Talk.Sound.awaited_at (h : t.Sound) {k : Nat} {p : Pending} (hp : t.pending[k]? = some p)
    (live : p.phase ≠ .gone) : t.tracker.state? p.exchange = some .awaiting :=
  h.awaited p (List.mem_of_getElem? hp) live

theorem record_awaiting {tracker : Exchange.Tracker} {id : Exchange.Id} (h : tracker.state? id = some .awaiting)
    (outcome : Exchange.Outcome) : record tracker id outcome = tracker.settled id outcome := by
  rw [record, Exchange.Tracker.settle_awaiting h]

/-- Whoever comes to its end awaited its response, so its outcome is recorded. -/
theorem Does.settles (h : Does c d t vs ns) (hs : c.talk.Sound) {id : Exchange.Id} {outcome : Exchange.Outcome}
    (hd : d.outcome? = some (id, outcome)) :
    c.tracker.state? id = some .awaiting ∧ t.tracker = c.tracker.settled id outcome := by
  cases h with
  | quiet | phased | scrolled | opened => exact nomatch hd
  | delivered hp live | failed hp live =>
    obtain ⟨rfl, rfl⟩ := Prod.mk.inj (Option.some.inj hd)
    have ha : c.tracker.state? _ = some .awaiting := hs.awaited_at hp live
    exact ⟨ha, record_awaiting ha _⟩

theorem Does.state? (h : Does c d t vs ns) (hs : c.talk.Sound) (i : Exchange.Id) :
    t.tracker.state? i = match d.mark? with
      | some (j, s) => if i = j then some s else c.tracker.state? i
      | none => c.tracker.state? i := by
  cases h with
  | quiet | phased | scrolled => rfl
  | opened => exact Exchange.Tracker.state?_start hs.numbered i
  | delivered hp live =>
    obtain ⟨ha, ht⟩ := (Does.delivered hp live).settles hs rfl
    rw [ht]
    exact Exchange.Tracker.state?_settled ha .delivered i
  | failed hp live =>
    obtain ⟨ha, ht⟩ := (Does.failed hp live).settles hs rfl
    rw [ht]
    exact Exchange.Tracker.state?_settled ha (.failed _) i

/-! ### What every deed preserves -/

/-- Whoever is there after an exchange was changed was there before and is another, or is that exchange. -/
theorem Talk.Sound.mem_setPhase (hs : c.talk.Sound) {k : Nat} {p q : Pending} {phase : Phase}
    (hp : c.pending[k]? = some p) (hq : q ∈ (c.setPhase k phase).pending) :
    (q ∈ c.pending ∧ q.exchange ≠ p.exchange) ∨ q = { p with phase } := by
  rcases Controller.mem_setPhase hq with ⟨j, hj, hq⟩ | ⟨p', hp', rfl⟩
  · refine .inl ⟨List.mem_of_getElem? hq, ?_⟩
    rw [hs.exchange_eq hq, hs.exchange_eq hp]
    exact fun he => hj (Nat.succ.inj he).symm
  · rw [hp] at hp'
    obtain rfl := Option.some.inj hp'
    exact .inr rfl

theorem Talk.Sound.started (hs : c.talk.Sound) {entries : List Transcript.Entry}
    (he : entries.map Transcript.Entry.id = List.range' 1 entries.length) :
    Talk.Sound { c.talk with tracker := c.tracker.start.2, entries, pending := c.pending ++ [c.next] } := by
  refine ⟨hs.numbered.start, hs.balanced.start, ?_, fun p hp live => ?_, he⟩
  · show (c.pending ++ [c.next]).map Pending.exchange = List.range' 1 (c.tracker.started + 1)
    have h : c.pending.map Pending.exchange = List.range' 1 c.tracker.started := hs.exchanges
    rw [List.map_append, h, List.range'_1_concat, Nat.add_comm 1]
    rfl
  · have hn : c.tracker.Numbered := hs.numbered
    show c.tracker.start.2.state? p.exchange = _
    rw [Exchange.Tracker.state?_start hn]
    split
    · rfl
    · next hne =>
      rcases List.mem_append.mp hp with hp | hp
      · exact hs.awaited p hp live
      · obtain rfl := List.mem_singleton.mp hp
        exact absurd rfl hne

theorem Talk.Sound.settled (hs : c.talk.Sound) {k : Nat} {p : Pending} (hp : c.pending[k]? = some p)
    (live : p.phase ≠ .gone) (outcome : Exchange.Outcome) {entries : List Transcript.Entry}
    (he : entries.map Transcript.Entry.id = List.range' 1 entries.length) :
    Talk.Sound { c.talk with
      tracker := record c.tracker p.exchange outcome, entries, pending := (c.setPhase k .gone).pending } := by
  have ha : c.tracker.state? p.exchange = some .awaiting := hs.awaited_at hp live
  rw [record_awaiting ha]
  refine ⟨hs.numbered.settled _ _, hs.balanced.settled hs.numbered ha _, ?_, fun q hq hlive => ?_, he⟩
  · exact (exchange_setPhase c k .gone).trans hs.exchanges
  · rcases hs.mem_setPhase hp hq with ⟨hq, hne⟩ | rfl
    · show (c.tracker.settled p.exchange outcome).state? q.exchange = _
      rw [Exchange.Tracker.state?_settled ha, if_neg hne]
      exact hs.awaited q hq hlive
    · exact absurd rfl hlive

theorem entryIds_append {entries added : List Transcript.Entry}
    (h : entries.map Transcript.Entry.id = List.range' 1 entries.length)
    (ha : added.map Transcript.Entry.id = List.range' (entries.length + 1) added.length) :
    (entries ++ added).map Transcript.Entry.id = List.range' 1 (entries ++ added).length := by
  rw [List.map_append, h, ha, List.length_append, Nat.add_comm entries.length 1, ← List.range'_append_1]

theorem Does.sound (h : Does c d t vs ns) (hs : c.talk.Sound) : t.Sound := by
  have hids : c.transcript.entries.map Transcript.Entry.id = List.range' 1 c.transcript.entries.length := hs.entryIds
  cases h with
  | quiet | scrolled => exact hs
  | phased live =>
    refine ⟨hs.numbered, hs.balanced, (exchange_setPhase c _ _).trans hs.exchanges, fun p hp hl => ?_, hs.entryIds⟩
    rcases mem_setPhase hp with ⟨j, -, hp⟩ | ⟨q, hq, rfl⟩
    · exact hs.awaited_at hp hl
    · obtain ⟨q', hq', hl'⟩ := live hl
      rw [hq] at hq'
      obtain rfl := Option.some.inj hq'
      have ha : c.tracker.state? q.exchange = some .awaiting := hs.awaited_at hq hl'
      exact ha
  | opened => exact hs.started (entryIds_append hids rfl)
  | delivered hp live => exact hs.settled hp live .delivered (entryIds_append hids rfl)
  | failed hp live => exact hs.settled hp live (.failed _) hids

/-! ## What a deed adds, asks and tells -/

def Deed.opened? : Deed → Option Pending
  | .opened p => some p
  | _ => none

/-- An exchange is made of the typed text, which is not blank. -/
theorem Does.opened_next (h : Does c d t vs ns) {p : Pending} (hd : d.opened? = some p) :
    p = c.next ∧ Text.isBlankText c.input = false := by
  cases h with
  | opened hb => exact ⟨(Option.some.inj hd).symm, hb⟩
  | _ => exact nomatch hd

/-- The exchange that is made is handed over behind all others. -/
theorem Does.pending_opened (h : Does c d t vs ns) {p : Pending} (hd : d.opened? = some p) :
    t.pending = c.pending ++ [p] := by
  cases h with
  | opened =>
    obtain rfl := Option.some.inj hd
    rfl
  | _ => exact nomatch hd

/-- Exchanges are added at the end, and keep what no phase has a part in. -/
theorem Does.cores (h : Does c d t vs ns) :
    t.pending.map Pending.core = c.pending.map Pending.core ++ (d.opened?.map Pending.core).toList := by
  cases h with
  | quiet | scrolled => exact (List.append_nil _).symm
  | phased | delivered | failed => exact (core_setPhase c _ _).trans (List.append_nil _).symm
  | opened => exact List.map_append

def Deed.said (c : Controller) : Deed → List (Transcript.Role × Transcript.Body × Option Exchange.Id)
  | .opened p => [(.user, .text (Transcript.userText c.config.userLabel p.input), some p.exchange)]
  | .delivered id body =>
    [(.bot, .markup (c.renderer.render (Exchange.replyText body)), some id), (.spacer, .empty, some id)]
  | _ => []

/-- The end is brought into view after a reply, and when the surface was loaded. -/
def Deed.scrolls : Deed → Bool
  | .scrolled | .delivered .. => true
  | _ => false

theorem Does.settings (h : Does c d t vs ns) : t.config = c.config ∧ t.renderer = c.renderer := by
  cases h <;> exact ⟨rfl, rfl⟩

/-- Every entry that is added is rendered, and nothing else is. -/
theorem Does.entries (h : Does c d t vs ns) : t.entries = c.transcript.entries ++ vs.filterMap ViewCall.entry? := by
  cases h with
  | quiet | phased | scrolled | failed => exact (List.append_nil _).symm
  | opened | delivered => rfl

theorem Does.said (h : Does c d t vs ns) : (vs.filterMap ViewCall.entry?).map Transcript.Entry.said = d.said c := by
  cases h <;> rfl

/-- Entries are rendered first; where is scrolled to then depends on them. -/
theorem Does.calls (h : Does c d t vs ns) :
    vs = (vs.filterMap ViewCall.entry?).map .render ++
      if d.scrolls then
        [.scrollTo (((vs.filterMap ViewCall.entry?).map .render).foldl Transcript.View.apply
          c.transcript.view).metrics.bottom]
      else [] := by
  cases h <;> rfl

/-- A failure is told to the user, and nothing else is. -/
def Deed.notices (c : Controller) : Deed → List String
  | .failed .. => [c.config.failureMessage]
  | .quiet | .scrolled | .opened _ | .delivered .. => []

theorem Does.notices (h : Does c d t vs ns) : ns = d.notices c := by
  cases h <;> rfl

theorem Does.count_isFailed (h : Does c d t vs ns) (hs : c.talk.Sound) :
    t.tracker.count Exchange.State.isFailed = c.tracker.count Exchange.State.isFailed + ns.length := by
  cases h with
  | quiet | phased | scrolled => rfl
  | opened => exact Exchange.Tracker.count_start Exchange.State.isFailed c.tracker
  | delivered hp live =>
    obtain ⟨ha, ht⟩ := (Does.delivered hp live).settles hs rfl
    rw [ht]
    exact Exchange.Tracker.count_isFailed_settled hs.numbered ha .delivered
  | failed hp live =>
    obtain ⟨ha, ht⟩ := (Does.failed hp live).settles hs rfl
    rw [ht]
    exact Exchange.Tracker.count_isFailed_settled hs.numbered ha (.failed _)

/-! ## Conversations that go on -/

theorem Does.stays (h : Does c d t vs ns) (hs : c.talk.Sound) {i : Exchange.Id} {s : Exchange.State}
    (hi : c.tracker.state? i = some s) (settled : s.isSettled = true) : t.tracker.state? i = some s := by
  have hnew : ∀ j s', d.mark? = some (j, s') → i ≠ j := by
    rintro j s' hd rfl
    cases h with
    | quiet | phased | scrolled => exact nomatch hd
    | opened =>
      obtain ⟨rfl, -⟩ := Prod.mk.inj (Option.some.inj hd)
      have hn : c.tracker.Numbered := hs.numbered
      exact nomatch hn.state?_next.symm.trans hi
    | delivered hp live | failed hp live =>
      obtain ⟨rfl, -⟩ := Prod.mk.inj (Option.some.inj hd)
      have ha : c.tracker.state? _ = some .awaiting := hs.awaited_at hp live
      obtain rfl := Option.some.inj (ha.symm.trans hi)
      exact nomatch settled
  rw [h.state? hs]
  cases hd : d.mark? with
  | none => exact hi
  | some m => exact (if_neg (hnew m.1 m.2 hd)).trans hi

/-- A conversation goes on: nothing that was handed over or settled is lost. -/
structure Talk.Goes (t t' : Talk) : Prop where
  config : t'.config = t.config
  renderer : t'.renderer = t.renderer
  cores : t.pending.map Pending.core <+: t'.pending.map Pending.core
  settled : ∀ i s, t.tracker.state? i = some s → s.isSettled = true → t'.tracker.state? i = some s

theorem Talk.Goes.refl (t : Talk) : t.Goes t := ⟨rfl, rfl, List.prefix_refl _, fun _ _ h _ => h⟩

theorem Talk.Goes.trans {t t' t'' : Talk} (h : t.Goes t') (h' : t'.Goes t'') : t.Goes t'' :=
  ⟨h'.config.trans h.config, h'.renderer.trans h.renderer, h.cores.trans h'.cores,
    fun i s hi hs => h'.settled i s (h.settled i s hi hs) hs⟩

theorem Does.goes (h : Does c d t vs ns) (hs : c.talk.Sound) : c.talk.Goes t := by
  obtain ⟨hconfig, hrenderer⟩ := h.settings
  refine ⟨hconfig, hrenderer, ?_, fun i s => h.stays hs⟩
  rw [h.cores]
  exact List.prefix_append _ _

end Sound

end Parley.Controller

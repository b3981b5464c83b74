import Parley.Proofs.Controller.Polling
import Parley.Proofs.Page.Listeners

/-!
# Exchanges that were dispatched

* `Controller.poll_pending`, `poll_ends` : polling one exchange leaves the others alone, and ends it when its answer is
  there;
* `Live`, `Busy`, `busy_step`, `busy_run` : every task is an exchange that has not ended, and has no other task;
* `Ends`, `task_ends` : a task whose answer is there ends, and its exchange is settled, whether its widget was freed or
  not.
-/

namespace Parley

namespace Controller

variable {c : Controller} {i : Nat} {fresh : SessionId} {answer : Nat → Exchange.Request → Option Exchange.Arrival}

/-- What polling exchange number `i` makes of the exchanges: of the others nothing, and one that waits has not ended. -/
structure Leaves (c : Controller) (i : Nat) (s : Step Progress) : Prop where
  others : ∀ j, j ≠ i → s.state.pending[j]? = c.pending[j]?
  waiting : s.result = .waiting → ∃ p, s.state.pending[i]? = some p ∧ p.phase ≠ .gone

theorem getElem?_setPhase_ne {j : Nat} (hj : j ≠ i) (phase : Phase) :
    (c.setPhase i phase).pending[j]? = c.pending[j]? := by
  rw [getElem?_setPhase, if_neg hj.symm]

theorem complete_leaves (id : Exchange.Id) (a : Exchange.Arrival) : Leaves c i (c.complete i id a) := by
  refine ⟨fun j hj => ?_, fun hw => ?_⟩
  · rw [complete_pending, getElem?_setPhase_ne hj]
  · have hreturned := returned?_complete c i id a
    rw [hw] at hreturned
    exact nomatch hreturned

theorem resume_leaves {n : Nat} {q : Exchange.Request} {p : Pending} (hp : c.pending[i]? = some p)
    (live : p.phase ≠ .gone) (id : Exchange.Id) : Leaves c i (c.resume answer i id n q) := by
  cases ha : answer n q with
  | none =>
    rw [resume_none c i ha]
    exact ⟨fun _ _ => rfl, fun _ => ⟨p, hp, live⟩⟩
  | some a =>
    rw [resume_some c i ha]
    exact complete_leaves id a

theorem poll_pending (c : Controller) (i : Nat) (fresh : SessionId)
    (answer : Nat → Exchange.Request → Option Exchange.Arrival) : Leaves c i (c.poll fresh answer i) := by
  have hway := poll_polling c i fresh answer
  generalize c.poll fresh answer i = s at hway
  cases hway with
  | unknown | gone => exact ⟨fun _ _ => rfl, nofun⟩
  | refused =>
    obtain ⟨others, waiting⟩ := complete_leaves _ _
    exact ⟨others, waiting⟩
  | @started p session store log hp phase established =>
    have hhanding : (c.handing i store (c.requestOf p session)).pending[i]? =
        some { p with phase := .waiting c.sent (c.requestOf p session) } := by
      unfold handing
      rw [getElem?_setPhase, if_pos rfl]
      show (c.pending[i]?).map _ = _
      rw [hp]
      rfl
    obtain ⟨others, waiting⟩ := resume_leaves hhanding Phase.noConfusion p.exchange
    refine ⟨fun j hj => (others j hj).trans ?_, waiting⟩
    unfold handing
    rw [getElem?_setPhase_ne hj]
  | waiting hp phase => exact resume_leaves hp (by rw [phase]; exact Phase.noConfusion) _

section Ends
variable {p : Pending} (hp : c.pending[i]? = some p) (live : p.phase ≠ .gone)
  (heard : ∀ n q, (answer n q).isSome = true)
include hp live heard

/-- Polling a live exchange comes to an end when its answer is there. -/
theorem isSome_returned?_poll : (c.poll fresh answer i).result.returned?.isSome = true := by
  have hresume : ∀ (c : Controller) (id : Exchange.Id) (n : Nat) (q : Exchange.Request),
      (c.resume answer i id n q).result.returned?.isSome = true := fun c id n q => by
    rw [returned?_resume, Option.isSome_map]
    exact heard n q
  have hway := poll_polling c i fresh answer
  generalize c.poll fresh answer i = s at hway
  cases hway with
  | unknown absent => exact nomatch hp.symm.trans absent
  | gone hp' phase =>
    obtain rfl := Option.some.inj (hp.symm.trans hp')
    exact absurd phase live
  | refused =>
    show (Controller.complete c i _ _).result.returned?.isSome = true
    rw [returned?_complete]
    rfl
  | started => exact hresume _ _ _ _
  | waiting => exact hresume _ _ _ _

theorem poll_ends (sound : c.talk.Sound) :
    ∃ state, (c.poll fresh answer i).state.tracker.state? p.exchange = some state ∧ state.isSettled = true := by
  have hreturned : (c.poll fresh answer i).result.returned?.isSome = true := isSome_returned?_poll hp live heard
  obtain ⟨d, hpolls, hdoes⟩ := poll_does c fresh answer i
  have hstate := hdoes.state? sound p.exchange
  generalize c.poll fresh answer i = s at hreturned hpolls hdoes hstate
  obtain ⟨result, c', effects⟩ := s
  dsimp only at hreturned hpolls hdoes hstate ⊢
  cases hpolls with
  | idle h =>
    rcases h with h | h | h <;> rw [h] at hreturned <;> exact nomatch hreturned
  | delivered hp' =>
    obtain rfl := Option.some.inj (hp.symm.trans hp')
    exact ⟨.delivered, hstate.trans (if_pos rfl), rfl⟩
  | failed hp' =>
    obtain rfl := Option.some.inj (hp.symm.trans hp')
    exact ⟨.failed _, hstate.trans (if_pos rfl), rfl⟩

end Ends

end Controller

namespace Browser

open Controller (Pending)
open Page (Listener Options Task Widget)

/-! ## Tasks -/

/-- Exchange number `k` of widget `i` has not ended. -/
def Live (b : Browser) (i k : Nat) : Prop :=
  ∃ (w : Widget) (p : Pending), b.widgets[i]? = some w ∧ w.chat.pending[k]? = some p ∧ p.phase ≠ .gone

/-- Every task is an exchange that has not ended, and no two are the same. -/
structure Busy (b : Browser) (ts : List Task) : Prop where
  live : ∀ t ∈ ts, b.Live t.widget t.exchange
  once : (ts.map fun t => (t.widget, t.exchange)).Nodup

/-- Exchanges of the widgets go on as before. -/
def Lasts (b b' : Browser) : Prop :=
  ∀ (i : Nat) (w : Widget), b.widgets[i]? = some w →
    ∃ w' : Widget, b'.widgets[i]? = some w' ∧ w.chat.pending <+: w'.chat.pending

section Busy
variable {b b' : Browser} {ts : List Task}

theorem Lasts.of_widgets (h : b'.widgets = b.widgets) : b.Lasts b' := fun _ w hw =>
  ⟨w, h ▸ hw, List.prefix_refl _⟩

theorem Lasts.live (h : b.Lasts b') {i k : Nat} (live : b.Live i k) : b'.Live i k := by
  obtain ⟨w, p, hw, hp, hphase⟩ := live
  obtain ⟨w', hw', added, hpending⟩ := h i w hw
  refine ⟨w', p, hw', ?_, hphase⟩
  rw [← hpending, List.getElem?_append_left (List.getElem?_eq_some_iff.mp hp).1]
  exact hp

theorem Busy.lasts (h : b.Busy ts) (lasts : b.Lasts b') : b'.Busy ts := ⟨fun t ht => lasts.live (h.live t ht), h.once⟩

theorem lasts_replaced {i : Nat} {w : Widget} (hw : b.widgets[i]? = some w) (w' : Widget)
    (pending : w.chat.pending <+: w'.chat.pending) (page : Page) (supply : Session.Supply) (tasks : List Task) :
    b.Lasts ⟨page, b.widgets.set i w', tasks, supply⟩ := by
  intro j v hv
  dsimp only
  rw [getElem?_replaced hw]
  split
  · next hj =>
    rw [hj, hw] at hv
    obtain rfl := Option.some.inj hv
    exact ⟨w', rfl, pending⟩
  · exact ⟨v, hv, List.prefix_refl _⟩

theorem Busy.submits {α : Type} (h : b.Busy b.tasks) {i : Nat} {w : Widget} (hw : b.widgets[i]? = some w)
    (f : Controller → Controller.Step α) {sent : Option Nat}
    (hf : (w.chatOn b.page).Submits sent (f (w.chatOn b.page)).state.pending) :
    ((b.act i w f).browser.dispatch i sent).Busy ((b.act i w f).browser.dispatch i sent).tasks := by
  rw [act_eq]
  generalize f (w.chatOn b.page) = s at hf
  obtain ⟨result, state, effects⟩ := s
  dsimp only at hf ⊢
  have hpending : (w.chatOn b.page).pending = w.chat.pending := rfl
  generalize hs : state.pending = ps at hf
  cases hf with
  | nothing =>
    exact h.lasts (lasts_replaced hw { w with chat := state } ⟨[], (List.append_nil _).trans hs.symm⟩ _ _ _)
  | opened p phase =>
    have hlasts := lasts_replaced hw { w with chat := state } ⟨[p], hs.symm⟩
      (b.page.carryOut w state effects).1 b.supply (b.tasks ++ [⟨i, w.chat.pending.length, none⟩])
    refine ⟨fun t ht => ?_, ?_⟩
    · rcases List.mem_append.mp ht with ht | ht
      · exact hlasts.live (h.live t ht)
      · obtain rfl := List.mem_singleton.mp ht
        refine ⟨{ w with chat := state }, p, (getElem?_replaced hw _ _).trans (if_pos rfl), ?_, ?_⟩
        · show state.pending[w.chat.pending.length]? = some p
          rw [hs]
          exact List.getElem?_concat_length
        · rw [phase]
          exact Controller.Phase.noConfusion
    · show ((b.tasks ++ [_]).map _).Nodup
      rw [List.map_append, List.nodup_append]
      refine ⟨h.once, List.pairwise_singleton _ _, fun x hx y hy hxy => ?_⟩
      obtain ⟨t, ht, rfl⟩ := List.mem_map.mp hx
      rw [List.mem_singleton.mp hy] at hxy
      obtain ⟨hi, hk⟩ := Prod.mk.inj hxy
      obtain ⟨v, q, hv, hq, -⟩ := h.live t ht
      rw [hi, hw] at hv
      obtain rfl := Option.some.inj hv
      have hlt := (List.getElem?_eq_some_iff.mp hq).1
      rw [hk] at hlt
      exact Nat.lt_irrefl _ hlt

theorem busy_tell (h : b.Busy b.tasks) (k : String) (is : List Nat) :
    (tell k is b).browser.Busy (tell k is b).browser.tasks := by
  induction is generalizing b with
  | nil => exact h
  | cons i is ih =>
    rw [tell]
    cases hw : b.widgets[i]? with
    | none => exact ih h
    | some w => exact ih (h.submits hw (fun c => c.key k) ((w.chatOn b.page).key_submits k))

theorem poll_others (b : Browser) (t : Task) {i k : Nat} (hne : (i, k) ≠ (t.widget, t.exchange)) (live : b.Live i k) :
    (b.poll t).browser.Live i k := by
  cases hw : b.widgets[t.widget]? with
  | none =>
    rw [poll_unmounted hw]
    exact live
  | some w =>
    obtain ⟨v, p, hv, hp, hphase⟩ := live
    have hleaves := (w.chatOn b.page).poll_pending t.exchange b.supply.fresh (fun _ _ => b.answerOf? w.url t)
    rw [poll_mounted hw, act_eq]
    have hwidgets := getElem?_replaced hw
      { w with chat := ((w.chatOn b.page).poll b.supply.fresh (fun _ _ => b.answerOf? w.url t) t.exchange).state } i
    by_cases hi : i = t.widget
    · have hk : k ≠ t.exchange := fun hk => hne (Prod.ext hi hk)
      rw [if_pos hi] at hwidgets
      rw [hi, hw] at hv
      obtain rfl := Option.some.inj hv
      exact ⟨_, p, hwidgets, (hleaves.others k hk).trans hp, hphase⟩
    · rw [if_neg hi] at hwidgets
      exact ⟨v, p, hwidgets.trans hv, hp, hphase⟩

/-- What is left of a task is still its exchange, which has not ended. -/
theorem poll_left {t t' : Task} (h : (b.poll t).result = some t') :
    t'.widget = t.widget ∧ t'.exchange = t.exchange ∧ (b.poll t).browser.Live t.widget t.exchange := by
  cases hw : b.widgets[t.widget]? with
  | none =>
    rw [poll_unmounted hw] at h
    exact nomatch h
  | some w =>
    have hleaves := (w.chatOn b.page).poll_pending t.exchange b.supply.fresh (fun _ _ => b.answerOf? w.url t)
    rw [poll_mounted hw, act_eq] at h ⊢
    generalize (w.chatOn b.page).poll b.supply.fresh (fun _ _ => b.answerOf? w.url t) t.exchange = s at h hleaves
    dsimp only at h ⊢
    cases hr : s.result with
    | waiting =>
      rw [hr] at h
      obtain rfl := Option.some.inj h
      obtain ⟨p, hp, hphase⟩ := hleaves.waiting hr
      exact ⟨rfl, rfl, { w with chat := s.state }, p, (getElem?_replaced hw _ _).trans (if_pos rfl), hp, hphase⟩
    | _ =>
      rw [hr] at h
      exact nomatch h

theorem busy_poll {t : Task} {before after : List Task} (h : b.Busy (before ++ t :: after)) :
    (b.poll t).browser.Busy (before ++ (b.poll t).result.toList ++ after) := by
  have honce := (List.perm_middle.map _).nodup_iff.mp h.once
  have hothers : ∀ u ∈ before ++ after, (b.poll t).browser.Live u.widget u.exchange := by
    intro u hu
    refine poll_others b t (fun heq => ?_) (h.live u ?_)
    · exact (List.nodup_cons.mp honce).1 (List.mem_map.mpr ⟨u, hu, heq⟩)
    · exact (List.Sublist.append_left (List.sublist_cons_self t after) before).subset hu
  cases hresult : (b.poll t).result with
  | none =>
    rw [Option.toList_none, List.append_nil]
    exact ⟨hothers, (List.nodup_cons.mp honce).2⟩
  | some t' =>
    obtain ⟨hwidget, hexchange, hlive⟩ := poll_left hresult
    rw [Option.toList_some, List.append_assoc, List.singleton_append]
    refine ⟨fun u hu => ?_, ?_⟩
    · rcases List.mem_cons.mp (List.perm_middle.mem_iff.mp hu) with rfl | hu
      · rw [hwidget, hexchange]
        exact hlive
      · exact hothers u hu
    · refine (List.perm_middle.map _).nodup_iff.mpr ?_
      rw [List.map_cons, hwidget, hexchange]
      exact honce

theorem busy_pollAll {ts before : List Task} (h : b.Busy (before ++ ts)) :
    (pollAll ts b).browser.Busy (before ++ (pollAll ts b).result) := by
  -- what is left of the tasks already polled stands before those that are still to be polled
  induction ts generalizing b before with
  | nil => exact h
  | cons t ts ih =>
    have hrest := ih (busy_poll h)
    rw [List.append_assoc] at hrest
    exact hrest

theorem Busy.onward (h : b.Busy b.tasks) (widgets : b'.widgets = b.widgets) (tasks : b'.tasks = b.tasks) :
    b'.Busy b'.tasks :=
  tasks ▸ h.lasts (.of_widgets widgets)

/-- A chat that submits nothing leaves tasks alone. -/
theorem Busy.still {α : Type} (h : b.Busy b.tasks) {i : Nat} {w : Widget} (hw : b.widgets[i]? = some w)
    (f : Controller → Controller.Step α) (hf : (f (w.chatOn b.page)).state.pending = w.chat.pending) :
    (b.act i w f).browser.Busy (b.act i w f).browser.tasks := by
  let w' : Widget := { w with chat := (f (w.chatOn b.page)).state }
  have hprefix : w.chat.pending <+: w'.chat.pending := ⟨[], (List.append_nil _).trans hf.symm⟩
  exact h.lasts (lasts_replaced hw w' hprefix _ _ _)

theorem busy_ofWidget {α : Type} (h : b.Busy b.tasks) (answer : α → Answer) {o? : Option (Outcome α)}
    (ho : ∀ o, o? = some o → o.browser.Busy o.browser.tasks) :
    (b.ofWidget answer o?).browser.Busy (b.ofWidget answer o?).browser.tasks := by
  cases o? with
  | none => exact h
  | some o => exact ho o rfl

theorem busy_mount (h : b.Busy b.tasks) (o : Options) : (b.mount o).browser.Busy (b.mount o).browser.tasks := by
  have hmounts := mount_mounts b o
  generalize b.mount o = out at hmounts
  cases hmounts with
  | refused => exact h
  | mounted =>
    refine h.lasts fun i w hw => ⟨w, ?_, List.prefix_refl _⟩
    exact (List.getElem?_append_left (List.getElem?_eq_some_iff.mp hw).1).trans hw

theorem busy_free (h : b.Busy b.tasks) (i : Nat) : (b.free i).browser.Busy (b.free i).browser.tasks := by
  unfold Browser.free
  cases hheld : b.held? i with
  | none => exact h
  | some w =>
    have hlasts : ∀ page, b.Lasts ⟨page, b.widgets.set i { w with freed := true }, b.tasks, b.supply⟩ := fun page =>
      lasts_replaced (held?_eq_some hheld) { w with freed := true } (List.prefix_refl _) page b.supply b.tasks
    dsimp only
    cases b.page.throws? .removeEventListener with
    | some v => exact h.lasts (hlasts _)
    | none => exact h.lasts (hlasts _)

theorem busy_step (h : b.Busy b.tasks) (m : Move) : (b.next m).Busy (b.next m).tasks := by
  cases m with
  | mount o => exact busy_mount h o
  | mountWith options =>
    rcases b.next_mountWith options with hnext | ⟨o, hnext⟩ <;> rw [hnext]
    · exact h
    · exact busy_mount h o
  | free i => exact busy_free h i
  | send i =>
    refine busy_ofWidget h _ fun o ho => ?_
    obtain ⟨w, hw, rfl⟩ := Option.map_eq_some_iff.mp ho
    exact h.submits (held?_eq_some hw) Controller.send (w.chatOn b.page).send_submits
  | sessionId i =>
    refine busy_ofWidget h _ fun o ho => ?_
    obtain ⟨w, hw, rfl⟩ := Option.map_eq_some_iff.mp ho
    exact (h.still (held?_eq_some hw) (fun c => c.sessionId b.supply.fresh) rfl).onward rfl rfl
  | resetSession i =>
    refine busy_ofWidget h _ fun o ho => ?_
    obtain ⟨w, hw, rfl⟩ := Option.map_eq_some_iff.mp ho
    exact h.still (held?_eq_some hw) Controller.resetSession rfl
  | inFlight | tabSessionId | freshId | load | type | prepare | fault | alter | resize | write =>
    exact h.onward rfl rfl
  | post url r =>
    unfold next step post
    dsimp only
    cases b.page.answer? url <;> exact h.onward rfl rfl
  | key element k event =>
    unfold next
    rcases b.step_key element k event with ⟨_, hstep⟩ | ⟨-, hstep⟩ <;> rw [hstep]
    · exact h
    · exact busy_tell h k _
  | run =>
    have hpolled : (pollAll b.tasks b).browser.Busy ([] ++ (pollAll b.tasks b).result) := busy_pollAll h
    exact hpolled.lasts (.of_widgets rfl)
  | release n r =>
    unfold next step
    dsimp only
    cases b.page.replies.release? n r <;> exact h.onward rfl rfl

theorem busy_run (page : Page) (supply : Session.Supply) (ms : List Move) :
    (ms.foldl next (opened page supply)).Busy (ms.foldl next (opened page supply)).tasks := by
  have hstart : (opened page supply).Busy (opened page supply).tasks :=
    ⟨fun t ht => (List.not_mem_nil ht).elim, List.nodup_nil⟩
  generalize opened page supply = b at hstart
  induction ms generalizing b with
  | nil => exact hstart
  | cons m ms ih => exact ih _ (busy_step hstart m)

end Busy

/-! ## How tasks end -/

/-- A task goes on: its exchange awaits a response, and when its answer is there it ends, and the exchange is
settled. -/
structure Ends (b : Browser) (t : Task) (w : Widget) (p : Pending) : Prop where
  widget : b.widgets[t.widget]? = some w
  exchange : w.chat.pending[t.exchange]? = some p
  awaits : w.chat.tracker.state? p.exchange = some .awaiting
  ends : (b.answerOf? w.url t).isSome = true → (b.poll t).result = none
  settled : (b.answerOf? w.url t).isSome = true → ∃ w' state, (b.poll t).browser.widgets[t.widget]? = some w' ∧
    w'.chat.tracker.state? p.exchange = some state ∧ state.isSettled = true

theorem task_ends {b : Browser} (sound : b.Sound) (busy : b.Busy b.tasks) {t : Task} (ht : t ∈ b.tasks) :
    ∃ w p, b.Ends t w p := by
  obtain ⟨w, p, hw, hp, live⟩ := busy.live t ht
  have htalk := (sound w (List.mem_of_getElem? hw)).talk
  refine ⟨w, p, hw, hp, htalk.awaited_at hp live, fun heard => ?_, fun heard => ?_⟩
  · -- nothing is left of a task unless its exchange still waits, which it does not when it has returned
    have hreturned : ((w.chatOn b.page).poll b.supply.fresh (fun _ _ => b.answerOf? w.url t)
        t.exchange).result.returned?.isSome = true :=
      Controller.isSome_returned?_poll hp live fun _ _ => heard
    rw [poll_mounted hw, act_eq]
    dsimp only
    generalize (w.chatOn b.page).poll b.supply.fresh (fun _ _ => b.answerOf? w.url t) t.exchange = s at hreturned
    cases hr : s.result with
    | waiting =>
      rw [hr] at hreturned
      exact nomatch hreturned
    | _ => rfl
  · obtain ⟨state, hstate, hsettled⟩ : ∃ state, ((w.chatOn b.page).poll b.supply.fresh
        (fun _ _ => b.answerOf? w.url t) t.exchange).state.tracker.state? p.exchange = some state ∧
        state.isSettled = true :=
      Controller.poll_ends hp live (fun _ _ => heard) htalk
    rw [poll_mounted hw, act_eq]
    exact ⟨_, state, (getElem?_replaced hw _ _).trans (if_pos rfl), hstate, hsettled⟩

end Browser

end Parley

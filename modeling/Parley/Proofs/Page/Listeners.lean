import Parley.Proofs.Page.Beside

/-!
# Who hears of keys

* `Keeps`, `step_keeps` : only mounting and freeing attach and detach anything; `query_run` : nothing changes how
  selectors are read;
* `Attached`, `attached_step`, `attached_run` : every listener is its widget's, and a widget that is held has one;
* `Starts`, `tell_starts`, `Presses`, `key_presses` : what a key event starts.
-/

namespace Parley

namespace Page

/-! ## What a chat does attaches nothing -/

/-- The listeners are the same, and selectors are read in the same way. -/
structure Stays (p p' : Page) : Prop where
  listeners : p'.listeners = p.listeners
  query : p'.query = p.query

theorem Stays.refl (p : Page) : p.Stays p := ⟨rfl, rfl⟩

theorem Stays.trans {p p' p'' : Page} (h : p.Stays p') (h' : p'.Stays p'') : p.Stays p'' :=
  ⟨h'.listeners.trans h.listeners, h'.query.trans h.query⟩

theorem render_stays (p : Page) (element : Nat) (e : Transcript.Entry) : p.Stays (p.render element e).1 := by
  unfold render
  cases p.throws? .createElement with
  | some v => exact ⟨rfl, rfl⟩
  | none =>
    dsimp only
    cases p.later.throws? .appendChild <;> exact ⟨rfl, rfl⟩

theorem send_stays (p : Page) (url : String) (r : Exchange.Request) : p.Stays (p.send url r).1 := by
  unfold send
  split <;> exact ⟨rfl, rfl⟩

theorem perform_stays (p : Page) (w : Widget) (e : Controller.Effect) : p.Stays (p.perform w e).1 := by
  cases e with
  | view call =>
    cases call with
    | render e => exact render_stays p w.container e
    | scrollTo => exact ⟨rfl, rfl⟩
  | post n r => exact send_stays p w.url r
  | notify | log => exact .refl p

theorem performAll_stays (p : Page) (w : Widget) (es : List Controller.Effect) : p.Stays (p.performAll w es).1 := by
  induction es generalizing p with
  | nil => exact .refl p
  | cons e es ih => exact (perform_stays p w e).trans (ih (p.perform w e).1)

theorem carryOut_stays (p : Page) (w : Widget) (chat : Controller) (es : List Controller.Effect) :
    p.Stays (p.carryOut w chat es).1 := by
  have hset : p.Stays { p.modify w.field fun e => { e with value := chat.input } with storage := chat.store.entries } :=
    ⟨rfl, rfl⟩
  exact hset.trans (performAll_stays _ w es)

end Page

namespace Browser

open Page (Listener Options Task Widget)

/-- The text field of a widget, and whether it was freed. -/
def binding? (b : Browser) (i : Nat) : Option (Nat × Bool) := (b.widgets[i]?).map fun w => (w.field, w.freed)

/-- Nothing was attached or detached, and nothing mounted or freed. -/
structure Keeps (b b' : Browser) : Prop where
  page : b.page.Stays b'.page
  bindings : ∀ i, b'.binding? i = b.binding? i

section Keeps
variable {b b' b'' : Browser}

theorem Keeps.refl (b : Browser) : b.Keeps b := ⟨.refl _, fun _ => rfl⟩

theorem Keeps.trans (h : b.Keeps b') (h' : b'.Keeps b'') : b.Keeps b'' :=
  ⟨h.page.trans h'.page, fun i => (h'.bindings i).trans (h.bindings i)⟩

theorem Keeps.onward (h : b.Keeps b') (page : b'.page.Stays b''.page) (widgets : b''.widgets = b'.widgets) :
    b.Keeps b'' :=
  h.trans ⟨page, fun i => by rw [binding?, binding?, widgets]⟩

theorem act_keeps {α : Type} {i : Nat} {w : Widget} (hw : b.widgets[i]? = some w)
    (f : Controller → Controller.Step α) : b.Keeps (b.act i w f).browser := by
  rw [act_eq]
  refine ⟨Page.carryOut_stays _ _ _ _, fun j => ?_⟩
  unfold binding?
  dsimp only
  rw [getElem?_replaced hw]
  split
  · next hj =>
    rw [hj, hw]
    rfl
  · rfl

theorem dispatch_keeps (b : Browser) (i : Nat) (exchange : Option Nat) : b.Keeps (b.dispatch i exchange) := by
  cases exchange with
  | none => exact .refl b
  | some n => exact (Keeps.refl b).onward ⟨rfl, rfl⟩ rfl

theorem tell_keeps (b : Browser) (k : String) (is : List Nat) : b.Keeps (tell k is b).browser := by
  induction is generalizing b with
  | nil => exact .refl b
  | cons i is ih =>
    rw [tell]
    cases hw : b.widgets[i]? with
    | none => exact ih b
    | some w => exact ((act_keeps hw fun c => c.key k).trans (dispatch_keeps _ i _)).trans (ih _)

theorem poll_keeps (b : Browser) (t : Task) : b.Keeps (b.poll t).browser := by
  cases hw : b.widgets[t.widget]? with
  | none =>
    rw [poll_unmounted hw]
    exact .refl b
  | some w =>
    have hact := act_keeps hw fun c => c.poll b.supply.fresh (fun _ _ => b.answerOf? w.url t) t.exchange
    rw [poll_mounted hw]
    exact hact.onward ⟨rfl, rfl⟩ rfl

theorem pollAll_keeps (b : Browser) (ts : List Task) : b.Keeps (pollAll ts b).browser := by
  induction ts generalizing b with
  | nil => exact .refl b
  | cons t ts ih => exact (poll_keeps b t).trans (ih (b.poll t).browser)

theorem ofWidget_keeps {α : Type} (answer : α → Answer) {o? : Option (Outcome α)}
    (h : ∀ o, o? = some o → b.Keeps o.browser) : b.Keeps (b.ofWidget answer o?).browser := by
  cases o? with
  | none => exact .refl b
  | some o => exact h o rfl

/-- Widgets come and go with such a move. -/
def Move.binds : Move → Bool
  | .mount _ | .mountWith _ | .free _ => true
  | _ => false

/-- Only mounting and freeing attach and detach anything. -/
theorem step_keeps {m : Move} (hm : m.binds = false) : b.Keeps (b.next m) := by
  cases m with
  | mount | mountWith | free => exact nomatch hm
  | send i =>
    refine ofWidget_keeps _ fun o ho => ?_
    obtain ⟨w, hw, rfl⟩ := Option.map_eq_some_iff.mp ho
    exact (act_keeps (held?_eq_some hw) Controller.send).trans (dispatch_keeps _ i _)
  | sessionId i =>
    refine ofWidget_keeps _ fun o ho => ?_
    obtain ⟨w, hw, rfl⟩ := Option.map_eq_some_iff.mp ho
    exact (act_keeps (held?_eq_some hw) fun c => c.sessionId b.supply.fresh).onward ⟨rfl, rfl⟩ rfl
  | resetSession i =>
    refine ofWidget_keeps _ fun o ho => ?_
    obtain ⟨w, hw, rfl⟩ := Option.map_eq_some_iff.mp ho
    exact act_keeps (held?_eq_some hw) Controller.resetSession
  | inFlight | tabSessionId | freshId | load | type | prepare | fault | alter | resize | write =>
    exact (Keeps.refl b).onward ⟨rfl, rfl⟩ rfl
  | post url r =>
    have hsent : b.Keeps { b with page := (b.page.send url r).1 } :=
      (Keeps.refl b).onward (Page.send_stays b.page url r) rfl
    unfold next step post
    dsimp only
    cases b.page.answer? url <;> exact hsent
  | key element k event =>
    unfold next
    rcases b.step_key element k event with ⟨_, hstep⟩ | ⟨-, hstep⟩ <;> rw [hstep]
    · exact .refl b
    · exact tell_keeps b k _
  | run => exact (pollAll_keeps b b.tasks).onward ⟨rfl, rfl⟩ rfl
  | release n r =>
    unfold next step
    dsimp only
    cases b.page.replies.release? n r <;> exact (Keeps.refl b).onward ⟨rfl, rfl⟩ rfl

end Keeps

/-! ## Listeners and their widgets -/

/-- Listeners belong to widgets. -/
structure Attached (b : Browser) : Prop where
  /-- Every listener is at the text field of its widget. -/
  owner : ∀ l ∈ b.page.listeners, ∃ w, b.widgets[l.widget]? = some w ∧ w.field = l.element
  /-- No widget has two. -/
  once : (b.page.listeners.map Listener.widget).Nodup
  /-- A widget that is held has one. -/
  held : ∀ i w, b.held? i = some w → ⟨w.field, i⟩ ∈ b.page.listeners

theorem held?_iff {b : Browser} {i : Nat} {w : Widget} :
    b.held? i = some w ↔ b.widgets[i]? = some w ∧ w.freed = false := by
  rw [held?, Option.filter_eq_some_iff, Bool.not_eq_true']

section Attached
variable {b b' : Browser}

theorem Attached.kept (h : b.Attached) (keeps : b.Keeps b') : b'.Attached := by
  refine ⟨fun l hl => ?_, ?_, fun i w' hw' => ?_⟩
  · rw [keeps.page.listeners] at hl
    obtain ⟨w, hw, hfield⟩ := h.owner l hl
    have hbinding : b'.binding? l.widget = some (w.field, w.freed) := by
      rw [keeps.bindings, binding?, hw, Option.map_some]
    obtain ⟨w', hw', heq⟩ := Option.map_eq_some_iff.mp hbinding
    exact ⟨w', hw', (Prod.mk.inj heq).1.trans hfield⟩
  · rw [keeps.page.listeners]
    exact h.once
  · obtain ⟨hw', held⟩ := held?_iff.mp hw'
    have hbinding : b.binding? i = some (w'.field, w'.freed) := by rw [← keeps.bindings, binding?, hw', Option.map_some]
    obtain ⟨w, hw, heq⟩ := Option.map_eq_some_iff.mp hbinding
    obtain ⟨hfield, hfreed⟩ := Prod.mk.inj heq
    rw [keeps.page.listeners, ← hfield]
    exact h.held i w (held?_iff.mpr ⟨hw, hfreed.trans held⟩)

theorem Attached.joined (h : b.Attached) (o : Options) (field container : Nat) :
    (b.joined o field container).Attached := by
  generalize hw : loaded b.page (newcomer b.page o field container) = w
  have hfield : w.field = field := hw ▸ rfl
  unfold Browser.joined
  rw [hw]
  refine ⟨fun l hl => ?_, ?_, fun i v hv => ?_⟩
  · rcases List.mem_append.mp hl with hl | hl
    · obtain ⟨v, hv, hfield⟩ := h.owner l hl
      exact ⟨v, (List.getElem?_append_left (List.getElem?_eq_some_iff.mp hv).1).trans hv, hfield⟩
    · obtain rfl := List.mem_singleton.mp hl
      exact ⟨w, List.getElem?_concat_length, hfield⟩
  · dsimp only
    rw [List.map_append, List.nodup_append]
    refine ⟨h.once, List.pairwise_singleton _ _, fun i hi j hj => ?_⟩
    obtain ⟨l, hl, rfl⟩ := List.mem_map.mp hi
    obtain ⟨v, hv, -⟩ := h.owner l hl
    rw [List.mem_singleton.mp hj]
    exact Nat.ne_of_lt (List.getElem?_eq_some_iff.mp hv).1
  · obtain ⟨hv, held⟩ := held?_iff.mp hv
    by_cases hi : i = b.widgets.length
    · subst hi
      obtain rfl := Option.some.inj (List.getElem?_concat_length.symm.trans hv)
      rw [hfield]
      exact List.mem_append_right _ (List.mem_singleton_self _)
    · have hlt := (List.getElem?_eq_some_iff.mp hv).1
      rw [List.length_append, List.length_singleton] at hlt
      have hold := (List.getElem?_append_left (by omega)).symm.trans hv
      exact List.mem_append_left _ (h.held i v (held?_iff.mpr ⟨hold, held⟩))

theorem Attached.mount (h : b.Attached) (o : Options) : (b.mount o).browser.Attached := by
  have hmounts := mount_mounts b o
  generalize b.mount o = out at hmounts
  cases hmounts with
  | refused => exact h
  | mounted => exact h.joined o _ _

/-- A widget that is freed need not keep its listener, but all others do. -/
theorem Attached.freed (h : b.Attached) {i : Nat} {w : Widget} (hheld : b.held? i = some w) {p : Page}
    (fewer : p.listeners.Sublist b.page.listeners) (others : ∀ l ∈ b.page.listeners, l.widget ≠ i → l ∈ p.listeners) :
    Attached { b with page := p, widgets := b.widgets.set i { w with freed := true } } := by
  have hw := held?_eq_some hheld
  refine ⟨fun l hl => ?_, h.once.sublist (fewer.map _), fun j v hv => ?_⟩
  · obtain ⟨v, hv, hfield⟩ := h.owner l (fewer.subset hl)
    dsimp only
    rw [getElem?_replaced hw]
    split
    · next hi =>
      rw [hi, hw] at hv
      obtain rfl := Option.some.inj hv
      exact ⟨_, rfl, hfield⟩
    · exact ⟨v, hv, hfield⟩
  · obtain ⟨hv, held⟩ := held?_iff.mp hv
    rw [getElem?_replaced hw] at hv
    split at hv
    · obtain rfl := Option.some.inj hv
      exact nomatch held
    · next hj => exact others _ (h.held j v (held?_iff.mpr ⟨hv, held⟩)) hj

theorem Attached.free (h : b.Attached) (i : Nat) : (b.free i).browser.Attached := by
  unfold Browser.free
  cases hheld : b.held? i with
  | none => exact h
  | some w =>
    dsimp only
    cases b.page.throws? .removeEventListener with
    | some v => exact h.freed hheld (List.Sublist.refl _) fun l hl _ => hl
    | none =>
      exact h.freed hheld List.filter_sublist fun l hl hi => List.mem_filter.mpr ⟨hl, bne_iff_ne.mpr hi⟩

theorem next_mountWith (b : Browser) (options : Option Json.Value) :
    b.next (.mountWith options) = b ∨ ∃ o, b.next (.mountWith options) = (b.mount o).browser := by
  unfold next step
  dsimp only
  cases Options.ofArgument options with
  | error e => exact .inl rfl
  | ok o => exact .inr ⟨o, rfl⟩

theorem attached_step (h : b.Attached) (m : Move) : (b.next m).Attached := by
  cases hm : m.binds with
  | false => exact h.kept (step_keeps hm)
  | true =>
    cases m with
    | mount o => exact h.mount o
    | mountWith options =>
      rcases b.next_mountWith options with hnext | ⟨o, hnext⟩ <;> rw [hnext]
      · exact h
      · exact h.mount o
    | free i => exact h.free i
    | _ => exact nomatch hm

theorem attached_run (h : b.Attached) (ms : List Move) : (ms.foldl next b).Attached := by
  induction ms generalizing b with
  | nil => exact h
  | cons m ms ih => exact ih (attached_step h m)

theorem attached_opened {page : Page} (bare : page.listeners = []) (supply : Session.Supply) :
    (opened page supply).Attached := by
  refine ⟨fun l hl => ?_, ?_, fun i w hw => ?_⟩
  · rw [opened, bare] at hl
    exact (List.not_mem_nil hl).elim
  · rw [opened, bare]
    exact List.nodup_nil
  · exact nomatch held?_eq_some hw

end Attached

/-! ## Selectors -/

theorem query_mount (b : Browser) (o : Options) : (b.mount o).browser.page.query = b.page.query := by
  have hmounts := mount_mounts b o
  generalize b.mount o = out at hmounts
  cases hmounts <;> rfl

theorem query_free (b : Browser) (i : Nat) : (b.free i).browser.page.query = b.page.query := by
  unfold Browser.free
  cases b.held? i with
  | none => rfl
  | some w =>
    dsimp only
    cases b.page.throws? .removeEventListener <;> rfl

theorem query_step (b : Browser) (m : Move) : (b.next m).page.query = b.page.query := by
  cases hm : m.binds with
  | false => exact (step_keeps hm).page.query
  | true =>
    cases m with
    | mount o => exact query_mount b o
    | mountWith options =>
      rcases b.next_mountWith options with hnext | ⟨o, hnext⟩ <;> rw [hnext]
      exact query_mount b o
    | free i => exact query_free b i
    | _ => exact nomatch hm

theorem query_run (b : Browser) (ms : List Move) : (ms.foldl next b).page.query = b.page.query := by
  induction ms generalizing b with
  | nil => rfl
  | cons m ms ih => exact (ih (b.next m)).trans (query_step b m)

/-! ## What a key event starts -/

def started (b : Browser) (i : Nat) : Nat := ((b.widgets[i]?).map fun w => w.chat.pending.length).getD 0

def tasksOf (i : Nat) (ts : List Task) : Nat := ts.countP fun t => t.widget == i

/-- New tasks are exchanges that these widgets have started, no one more than one each time it was told. -/
structure Starts (b b' : Browser) (is : List Nat) (new : List Task) : Prop where
  tasks : b'.tasks = b.tasks ++ new
  started : ∀ i, b'.started i = b.started i + tasksOf i new
  told : ∀ i, tasksOf i new ≤ is.count i

theorem Starts.nothing (b : Browser) (is : List Nat) : b.Starts b is [] :=
  ⟨(List.append_nil _).symm, fun _ => rfl, fun _ => Nat.zero_le _⟩

theorem Starts.cons {b b' b'' : Browser} {i : Nat} {is : List Nat} {new new' : List Task} (h : b.Starts b' [i] new)
    (h' : b'.Starts b'' is new') : b.Starts b'' (i :: is) (new ++ new') := by
  have hsum : ∀ j, tasksOf j (new ++ new') = tasksOf j new + tasksOf j new' := fun j => List.countP_append
  refine ⟨?_, fun j => ?_, fun j => ?_⟩
  · rw [h'.tasks, h.tasks, List.append_assoc]
  · rw [hsum, h'.started, h.started, Nat.add_assoc]
  · have hcount : ([i] ++ is).count j = [i].count j + is.count j := List.count_append
    rw [hsum, ← List.singleton_append, hcount]
    exact Nat.add_le_add (h.told j) (h'.told j)

end Browser

namespace Controller

/-- What a submission hands to the host, and the exchanges after it. -/
inductive Submits (c : Controller) : Option Nat → List Pending → Prop
  | nothing : Submits c none c.pending
  | opened (p : Pending) (phase : p.phase = .unstarted) : Submits c (some c.pending.length) (c.pending ++ [p])

theorem send_submits (c : Controller) : c.Submits c.send.result c.send.state.pending := by
  cases hb : Text.isBlankText c.input with
  | true =>
    rw [send_blank hb]
    exact .nothing
  | false =>
    rw [send_typed hb]
    exact .opened c.next rfl

theorem key_submits (c : Controller) (k : String) : c.Submits (c.key k).result.sent (c.key k).state.pending := by
  cases hk : isSubmitKey k with
  | false =>
    rw [key_other hk]
    exact .nothing
  | true =>
    rw [key_submit hk]
    exact c.send_submits

theorem Submits.length {c : Controller} {sent : Option Nat} {ps : List Pending} (h : c.Submits sent ps) :
    ps.length = c.pending.length + sent.toList.length := by
  cases h with
  | nothing => rfl
  | opened => exact List.length_append

end Controller

namespace Browser

open Page (Listener Task Widget)

theorem act_key_starts {b : Browser} {i : Nat} {w : Widget} (hw : b.widgets[i]? = some w) (k : String) :
    let o := b.act i w fun c => c.key k
    b.Starts (o.browser.dispatch i o.result.sent) [i] (o.result.sent.toList.map fun n => ⟨i, n, none⟩) := by
  rw [act_eq]
  have hlength := ((w.chatOn b.page).key_submits k).length
  generalize (w.chatOn b.page).key k = s at hlength
  dsimp only
  have hof : ∀ j, tasksOf j (s.result.sent.toList.map fun n => (⟨i, n, none⟩ : Task)) =
      if j = i then s.result.sent.toList.length else 0 := by
    intro j
    unfold tasksOf
    rw [List.countP_map]
    split
    · next hj =>
      rw [hj]
      exact List.countP_eq_length.mpr fun n _ => beq_self_eq_true i
    · next hj => exact List.countP_eq_zero.mpr fun n _ hi => hj (eq_of_beq hi).symm
  have hpending : (w.chatOn b.page).pending = w.chat.pending := rfl
  refine ⟨?_, fun j => ?_, fun j => ?_⟩
  · cases s.result.sent <;> simp [dispatch]
  · rw [hof]
    have hdispatch : ∀ (b : Browser) (x : Option Nat), (b.dispatch i x).started j = b.started j := fun b x => by
      cases x <;> rfl
    rw [hdispatch]
    unfold Browser.started
    dsimp only
    rw [getElem?_replaced hw]
    split
    · next hj =>
      rw [hj, hw]
      exact hlength
    · rfl
  · rw [hof, List.count_singleton]
    cases s.result.sent with
    | none => split <;> exact Nat.zero_le _
    | some n =>
      split
      · next hj =>
        rw [hj, beq_self_eq_true]
        exact Nat.le_refl 1
      · exact Nat.zero_le _

/-- Widgets that are told of a key start exchanges, or none if the key is not Enter. -/
theorem tell_starts (b : Browser) (k : String) (is : List Nat) : ∃ new, b.Starts (tell k is b).browser is new ∧
    (Controller.isSubmitKey k = false → new = []) := by
  induction is generalizing b with
  | nil => exact ⟨[], .nothing b [], fun _ => rfl⟩
  | cons i is ih =>
    cases hw : b.widgets[i]? with
    | none =>
      obtain ⟨new, hstarts, hother⟩ := ih b
      rw [tell, hw]
      exact ⟨new, (Starts.nothing b [i]).cons hstarts, hother⟩
    | some w =>
      rw [tell, hw]
      obtain ⟨new, hstarts, hother⟩ := ih ((b.act i w fun c => c.key k).browser.dispatch i
        (b.act i w fun c => c.key k).result.sent)
      refine ⟨_, (act_key_starts hw k).cons hstarts, fun hk => ?_⟩
      rw [hother hk, act_eq, Controller.key_other hk]
      rfl

/-- What a key event starts. -/
structure Presses (b : Browser) (element : Nat) (k event : String) (new : List Task) : Prop where
  /-- New tasks are exchanges that widgets have started. -/
  tasks : (b.step (.key element k event)).browser.tasks = b.tasks ++ new
  started : ∀ i, (b.step (.key element k event)).browser.started i = b.started i + tasksOf i new
  /-- No widget starts more than one. -/
  once : ∀ i, tasksOf i new ≤ 1
  /-- And none does but when Enter is pressed where it listens. -/
  heard : ∀ t ∈ new, event = keyEvent ∧ Controller.isSubmitKey k = true ∧ ⟨element, t.widget⟩ ∈ b.page.listeners

theorem key_presses {b : Browser} (attached : b.Attached) (element : Nat) (k event : String) :
    ∃ new, b.Presses element k event new := by
  rcases b.step_key element k event with ⟨answer, hstep⟩ | ⟨hevent, hstep⟩
  · refine ⟨[], ?_, fun i => ?_, fun i => Nat.zero_le _, fun t ht => (List.not_mem_nil ht).elim⟩
    · rw [hstep, List.append_nil]
    · rw [hstep]
      rfl
  · obtain ⟨new, hstarts, hother⟩ := tell_starts b k (b.hearers element)
    have hbrowser := congrArg Outcome.browser hstep
    refine ⟨new, hbrowser ▸ hstarts.tasks, hbrowser ▸ hstarts.started, fun i => ?_, fun t ht => ⟨hevent, ?_, ?_⟩⟩
    · -- no widget has two listeners, so none hears twice
      refine Nat.le_trans (hstarts.told i) (List.nodup_iff_count.mp ?_ i)
      exact attached.once.sublist (List.filter_sublist.map _)
    · cases hk : Controller.isSubmitKey k with
      | true => rfl
      | false =>
        rw [hother hk] at ht
        exact (List.not_mem_nil ht).elim
    · have htold : 0 < tasksOf t.widget new := List.countP_pos_iff.mpr ⟨t, ht, beq_self_eq_true _⟩
      obtain ⟨l, hl, hwidget⟩ := List.mem_map.mp
        (List.count_pos_iff.mp (Nat.lt_of_lt_of_le htold (hstarts.told t.widget)))
      obtain ⟨hl, helement⟩ := List.mem_filter.mp hl
      rw [← hwidget, ← eq_of_beq helement]
      exact hl

end Browser

end Parley

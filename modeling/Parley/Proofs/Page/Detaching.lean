import Parley.Proofs.Page.Tasks

/-!
# Dropping a widget

* `put`, `tell_put`, `Ignores`, `key_ignores` : keys have nothing to do with a widget that does not listen;
* `free_detaches`, `Detached`, `detached_run` : a widget that is dropped does not listen any more, and never again;
* `Without`, `Outcome.Without`, `GoesOn`, `goesOn`, `back_goesOn` : what it has started goes on as if it had not been
  dropped;
* `widgets_come_and_go` : mounting and dropping, in any run.
-/

namespace Parley.Browser

open Controller (Pending)
open Page (Listener Options Task Widget)

/-! ## Keys and a widget that does not listen -/

/-- The browser with another widget in the place of widget `i`. -/
def put (b : Browser) (i : Nat) (w : Widget) : Browser := { b with widgets := b.widgets.set i w }

section Ignores
variable {b : Browser} {i : Nat}

theorem act_put {α : Type} {j : Nat} (hij : i ≠ j) (b : Browser) (v w : Widget) (f : Controller → Controller.Step α) :
    (b.put i v).act j w f = ⟨(b.act j w f).result, (b.act j w f).browser.put i v, (b.act j w f).effects⟩ := by
  rw [act_eq, act_eq]
  unfold put
  dsimp only
  rw [List.set_comm _ _ hij]

theorem dispatch_put (b : Browser) (v : Widget) (j : Nat) (exchange : Option Nat) :
    (b.put i v).dispatch j exchange = (b.dispatch j exchange).put i v := by
  cases exchange <;> rfl

/-- Whoever is not told has no part in what comes of a key. -/
theorem tell_put {k : String} {is : List Nat} (hi : i ∉ is) (b : Browser) (v : Widget) :
    tell k is (b.put i v) = ⟨(tell k is b).result, (tell k is b).browser.put i v, (tell k is b).effects⟩ := by
  induction is generalizing b with
  | nil => rfl
  | cons j is ih =>
    obtain ⟨hij, hrest⟩ := List.ne_and_not_mem_of_not_mem_cons hi
    have hwidget : (b.put i v).widgets[j]? = b.widgets[j]? := List.getElem?_set_ne hij
    rw [tell, tell, hwidget]
    cases b.widgets[j]? with
    | none => exact ih hrest b
    | some w =>
      dsimp only
      rw [act_put hij, dispatch_put, ih hrest]
      rfl

theorem tell_widget {k : String} {is : List Nat} (hi : i ∉ is) (b : Browser) :
    (tell k is b).browser.widgets[i]? = b.widgets[i]? := by
  induction is generalizing b with
  | nil => rfl
  | cons j is ih =>
    obtain ⟨hij, hrest⟩ := List.ne_and_not_mem_of_not_mem_cons hi
    rw [tell]
    cases hw : b.widgets[j]? with
    | none => exact ih hrest b
    | some w =>
      have hdispatch : ∀ (b : Browser) (x : Option Nat), (b.dispatch j x).widgets = b.widgets := fun b x => by
        cases x <;> rfl
      refine (ih hrest _).trans ?_
      rw [hdispatch, act_eq]
      exact (getElem?_replaced hw _ i).trans (if_neg hij)

/-- A key event has nothing to do with widget `i`. -/
structure Ignores (b : Browser) (i element : Nat) (k event : String) : Prop where
  /-- Whatever widget it is, the same comes of the event. -/
  whoever : ∀ v, (b.put i v).step (.key element k event) = ⟨(b.step (.key element k event)).result,
    (b.step (.key element k event)).browser.put i v, (b.step (.key element k event)).effects⟩
  widget : (b.step (.key element k event)).browser.widgets[i]? = b.widgets[i]?
  tasks : ((b.step (.key element k event)).browser.tasks.filter fun t => t.widget == i) =
    b.tasks.filter fun t => t.widget == i
  /-- Where nobody listens nothing happens at all. -/
  silent : (∀ l ∈ b.page.listeners, l.element ≠ element) →
    (b.step (.key element k event)).browser = b ∧ (b.step (.key element k event)).effects = []

theorem key_ignores (attached : b.Attached) (deaf : ∀ l ∈ b.page.listeners, l.widget ≠ i) (element : Nat)
    (k event : String) : b.Ignores i element k event := by
  have hhearers : i ∉ b.hearers element := fun hi => by
    obtain ⟨l, hl, hwidget⟩ := List.mem_map.mp hi
    exact deaf l (List.mem_filter.mp hl).1 hwidget
  -- new tasks are of widgets that listen, which this one does not
  obtain ⟨new, presses⟩ := key_presses attached element k event
  have hnew : (new.filter fun t => t.widget == i) = [] :=
    List.filter_eq_nil_iff.mpr fun t ht hi => deaf _ (presses.heard t ht).2.2 (eq_of_beq hi)
  have htasks : ((b.step (.key element k event)).browser.tasks.filter fun t => t.widget == i) =
      b.tasks.filter fun t => t.widget == i := by
    rw [presses.tasks, List.filter_append, hnew, List.append_nil]
  have hput : ∀ v, (b.put i v).page = b.page := fun _ => rfl
  cases he : b.page.elements[element]? with
  | none =>
    refine ⟨fun v => ?_, ?_, htasks, fun _ => ?_⟩ <;> rw [step_key_absent he]
    · rw [step_key_absent (hput v ▸ he)]
    · exact ⟨rfl, rfl⟩
  | some e =>
    by_cases hevent : event = keyEvent
    · subst hevent
      refine ⟨fun v => ?_, ?_, htasks, fun hsilent => ?_⟩ <;> rw [step_key_told he]
      · have hsame : (b.put i v).hearers element = b.hearers element := rfl
        rw [step_key_told (hput v ▸ he), hsame, tell_put hhearers]
        rfl
      · exact tell_widget hhearers b
      · have hnobody : b.hearers element = [] := by
          unfold hearers
          rw [List.filter_eq_nil_iff.mpr fun l hl helement => hsilent l hl (eq_of_beq helement)]
          rfl
        rw [hnobody]
        exact ⟨rfl, rfl⟩
    · refine ⟨fun v => ?_, ?_, htasks, fun _ => ?_⟩ <;> rw [step_key_other he k hevent]
      · rw [step_key_other (hput v ▸ he) k hevent]
      · exact ⟨rfl, rfl⟩

end Ignores

/-! ## A widget that was dropped -/

/-- Widget `i` was dropped and does not listen. -/
structure Detached (b : Browser) (i : Nat) : Prop where
  freed : ∃ w, b.widgets[i]? = some w ∧ w.freed = true
  deaf : ∀ l ∈ b.page.listeners, l.widget ≠ i

section Detached
variable {b b' : Browser} {i : Nat}

theorem free_detaches (attached : b.Attached) {w : Widget} (hw : b.held? i = some w)
    (takes : b.page.throws? .removeEventListener = none) :
    ∃ before after, b.page.listeners = before ++ ⟨w.field, i⟩ :: after ∧ (∀ l ∈ before ++ after, l.widget ≠ i) ∧
      b.free i = ⟨true, { b with
        page := { b.page with listeners := before ++ after }
        widgets := b.widgets.set i { w with freed := true } }, []⟩ := by
  obtain ⟨before, after, hlisteners⟩ := List.append_of_mem (attached.held i w hw)
  have honce := attached.once
  rw [hlisteners] at honce
  have hothers : ∀ l ∈ before ++ after, l.widget ≠ i := fun l hl hi =>
    (List.nodup_cons.mp ((List.perm_middle.map _).nodup_iff.mp honce)).1 (List.mem_map.mpr ⟨l, hl, hi⟩)
  have hfilter : (b.page.listeners.filter fun l => l.widget != i) = before ++ after := by
    have hkept : ∀ ls : List Listener, (∀ l ∈ ls, l ∈ before ++ after) → (ls.filter fun l => l.widget != i) = ls :=
      fun ls hls => List.filter_eq_self.mpr fun l hl => bne_iff_ne.mpr (hothers l (hls l hl))
    rw [hlisteners, List.filter_append, List.filter_cons_of_neg (by simp),
      hkept before fun l hl => List.mem_append_left _ hl, hkept after fun l hl => List.mem_append_right _ hl]
  refine ⟨before, after, hlisteners, hothers, ?_⟩
  rw [Browser.free, hw]
  dsimp only
  rw [takes]
  dsimp only
  rw [hfilter]

theorem Detached.kept (h : b.Detached i) (keeps : b.Keeps b') : b'.Detached i := by
  obtain ⟨⟨w, hw, hfreed⟩, deaf⟩ := h
  have hbinding : b'.binding? i = some (w.field, true) := by
    rw [keeps.bindings, binding?, hw, ← hfreed, Option.map_some]
  obtain ⟨w', hw', heq⟩ := Option.map_eq_some_iff.mp hbinding
  exact ⟨⟨w', hw', (Prod.mk.inj heq).2⟩, keeps.page.listeners ▸ deaf⟩

theorem Detached.mount (h : b.Detached i) (o : Options) : (b.mount o).browser.Detached i := by
  have hmounts := mount_mounts b o
  generalize b.mount o = out at hmounts
  cases hmounts with
  | refused => exact h
  | mounted =>
    obtain ⟨⟨w, hw, hfreed⟩, deaf⟩ := h
    have hlt := (List.getElem?_eq_some_iff.mp hw).1
    refine ⟨⟨w, (List.getElem?_append_left hlt).trans hw, hfreed⟩, fun l hl => ?_⟩
    rcases List.mem_append.mp hl with hl | hl
    · exact deaf l hl
    · rw [List.mem_singleton.mp hl]
      exact (Nat.ne_of_lt hlt).symm

theorem Detached.free (h : b.Detached i) (j : Nat) : (b.free j).browser.Detached i := by
  obtain ⟨⟨w, hw, hfreed⟩, deaf⟩ := h
  unfold Browser.free
  cases hheld : b.held? j with
  | none => exact ⟨⟨w, hw, hfreed⟩, deaf⟩
  | some v =>
    obtain ⟨hv, held⟩ := held?_iff.mp hheld
    have hij : i ≠ j := by
      rintro rfl
      rw [hw] at hv
      obtain rfl := Option.some.inj hv
      exact nomatch hfreed.symm.trans held
    have hstays : (b.widgets.set j { v with freed := true })[i]? = some w :=
      ((getElem?_replaced hv _ i).trans (if_neg hij)).trans hw
    dsimp only
    cases b.page.throws? .removeEventListener with
    | some _ => exact ⟨⟨w, hstays, hfreed⟩, deaf⟩
    | none => exact ⟨⟨w, hstays, hfreed⟩, fun l hl => deaf l (List.mem_filter.mp hl).1⟩

theorem detached_step (h : b.Detached i) (m : Move) : (b.next m).Detached i := by
  cases hm : m.binds with
  | false => exact h.kept (step_keeps hm)
  | true =>
    cases m with
    | mount o => exact h.mount o
    | mountWith options =>
      rcases b.next_mountWith options with hnext | ⟨o, hnext⟩ <;> rw [hnext]
      · exact h
      · exact h.mount o
    | free j => exact h.free j
    | _ => exact nomatch hm

theorem detached_run (h : b.Detached i) (ms : List Move) : (ms.foldl next b).Detached i := by
  induction ms generalizing b with
  | nil => exact h
  | cons m ms ih => exact ih (detached_step h m)

end Detached

/-! ## What it has started goes on -/

/-- The same browser, but that widget `i` was freed and does not listen; what it has said and started is the same. -/
structure Without (i : Nat) (b b' : Browser) : Prop where
  page : b'.page = { b.page with listeners := b.page.listeners.filter fun l => l.widget != i }
  others : ∀ j, j ≠ i → b'.widgets[j]? = b.widgets[j]?
  /-- On the same page its chat is the same. -/
  widget : ∃ w w' : Widget, b.widgets[i]? = some w ∧ b'.widgets[i]? = some w' ∧
    w' = { w with chat := w'.chat, freed := true } ∧ ∀ p, w'.chatOn p = w.chatOn p
  tasks : b'.tasks = b.tasks
  supply : b'.supply = b.supply

structure Outcome.Without {α : Type} (i : Nat) (o o' : Outcome α) : Prop where
  result : o'.result = o.result
  effects : o'.effects = o.effects
  browser : o.browser.Without i o'.browser

section Without
variable {b b' : Browser} {i : Nat}

theorem means_eq : Page.Means (· = ·) (· = ·) where
  refl _ := rfl
  alike _ _ h _ := h ▸ ⟨rfl, rfl⟩

theorem without_of_beside (h : b.Beside (· = ·) (· == i) b') (hi : i < b.widgets.length) : b.Without i b' := by
  refine ⟨?_, fun j hj => ?_, ?_, h.tasks, h.supply⟩
  · rw [h.page.rest, h.page.replies.eq]
    rfl
  · have hw := h.widgets j
    rw [beq_false_of_ne hj] at hw
    generalize b.widgets[j]? = x, b'.widgets[j]? = x' at hw
    cases hw with
    | none => rfl
    | some hw => rw [hw.eq]
  · obtain ⟨w', hw', beside⟩ := h.widget (List.getElem?_eq_getElem hi)
    rw [beq_self_eq_true] at beside
    refine ⟨_, w', List.getElem?_eq_getElem hi, hw', ?_, beside.chatOn⟩
    exact beside.rest.trans (by rw [Bool.or_true])

theorem Outcome.Beside.without {α : Type} {o o' : Outcome α} (h : o.Beside (· = ·) (· = ·) (· == i) o') :
    o.Without i o' :=
  ⟨h.result, h.effects.eq.symm, without_of_beside h.browser (h.browser.mounted i (beq_self_eq_true i))⟩

theorem beside_freed {w : Widget} (hw : b.widgets[i]? = some w) :
    b.Beside (· = ·) (· == i) { b with
      page := { b.page with listeners := b.page.listeners.filter fun l => l.widget != i }
      widgets := b.widgets.set i { w with freed := true } } := by
  refine ⟨⟨rfl, .refl (fun _ => rfl) _⟩, fun j => ?_, rfl, rfl, fun j hj => ?_⟩
  · dsimp only
    rw [getElem?_replaced hw]
    split
    · next hj =>
      rw [hj, hw, beq_self_eq_true]
      exact .some ⟨by rw [Bool.or_true], nofun, fun _ => rfl⟩
    · next hj =>
      rw [beq_false_of_ne hj]
      cases b.widgets[j]? with
      | none => exact .none
      | some v => exact .some (.refl v)
  · rw [eq_of_beq hj]
    exact (List.getElem?_eq_some_iff.mp hw).1

/-- Whatever is done comes to the same without widget `i`, unless a script does it with the widget or the widget hears
of Enter. -/
def GoesOn (i : Nat) (b b' : Browser) : Prop :=
  ∀ ms, (∀ t ∈ Turn.list next b ms, t.state.Spares (· == i) t.move) →
    List.Forall₂ (fun t t' => (t.state.step t.move).Without i (t'.state.step t'.move)) (Turn.list next b ms)
      (Turn.list next b' ms)

theorem goesOn (h : b.Beside (· = ·) (· == i) b') : b.GoesOn i b' := fun _ spares =>
  (runs_beside means_eq h (List.forall₂_same.mpr fun m _ => .same m) spares).1.imp fun _ _ ht => ht.without

/-- The browser in which a widget was not dropped after all. -/
def back (b : Browser) (i : Nat) (w : Widget) : Browser :=
  { b with
    page := { b.page with listeners := b.page.listeners ++ [⟨w.field, i⟩] }
    widgets := b.widgets.set i { w with freed := false } }

theorem back_goesOn (h : b.Detached i) {w : Widget} (hw : b.widgets[i]? = some w) : (b.back i w).GoesOn i b := by
  obtain ⟨v, hv, hfreed⟩ := h.freed
  rw [hw] at hv
  obtain rfl := Option.some.inj hv
  have hback : (b.back i w).widgets[i]? = some { w with freed := false } :=
    (getElem?_replaced hw _ i).trans (if_pos rfl)
  have hbeside := beside_freed hback
  have hlisteners : ((b.page.listeners ++ [(⟨w.field, i⟩ : Listener)]).filter fun l => l.widget != i) =
      b.page.listeners := by
    rw [List.filter_append, List.filter_eq_self.mpr fun l hl => bne_iff_ne.mpr (h.deaf l hl),
      List.filter_cons_of_neg (by simp)]
    exact List.append_nil _
  have hwidgets : (b.widgets.set i { w with freed := false }).set i { w with freed := true } = b.widgets := by
    obtain ⟨hlt, hget⟩ := List.getElem?_eq_some_iff.mp hw
    rw [List.set_set, ← hfreed]
    exact hget ▸ List.set_getElem_self hlt
  unfold back at hbeside ⊢
  dsimp only at hbeside
  rw [hlisteners, hwidgets] at hbeside
  exact goesOn hbeside

end Without

/-! ## Widgets come and go -/

/-- What comes of dropping widget `i`, when the page lets go of its listener. -/
structure Drops (b : Browser) (i : Nat) (w : Widget) : Prop where
  /-- Its listener is detached, and all others stay. -/
  detaches : ∃ before after, b.page.listeners = before ++ ⟨w.field, i⟩ :: after ∧
    (∀ l ∈ before ++ after, l.widget ≠ i) ∧ b.free i = ⟨true, { b with
      page := { b.page with listeners := before ++ after }
      widgets := b.widgets.set i { w with freed := true } }, []⟩
  /-- It never listens again. -/
  detached : ∀ ms : List Move, (ms.foldl next (b.free i).browser).Detached i
  /-- No key has anything to do with it. -/
  ignores : ∀ (ms : List Move) (element : Nat) (k event : String),
    (ms.foldl next (b.free i).browser).Ignores i element k event
  /-- What it has started goes on as if it had not been dropped. -/
  goesOn : b.GoesOn i (b.free i).browser
  /-- So does what goes on at any later time, as if it were there again. -/
  again : ∀ (ms : List Move) (w' : Widget), (ms.foldl next (b.free i).browser).widgets[i]? = some w' →
    ((ms.foldl next (b.free i).browser).back i w').GoesOn i (ms.foldl next (b.free i).browser)

theorem Attached.drops {b : Browser} (attached : b.Attached) {i : Nat} {w : Widget} (hw : b.held? i = some w)
    (takes : b.page.throws? .removeEventListener = none) : b.Drops i w := by
  obtain ⟨before, after, hlisteners, hothers, hfree⟩ := free_detaches attached hw takes
  have hmounted := held?_eq_some hw
  have hdetached : (b.free i).browser.Detached i := by
    rw [hfree]
    exact ⟨⟨_, (getElem?_replaced hmounted _ i).trans (if_pos rfl), rfl⟩, hothers⟩
  have hbeside : b.Beside (· = ·) (· == i) (b.free i).browser := by
    rw [Browser.free, hw]
    dsimp only
    rw [takes]
    exact beside_freed hmounted
  refine ⟨⟨before, after, hlisteners, hothers, hfree⟩, detached_run hdetached, fun ms => ?_, Browser.goesOn hbeside,
    fun ms w' => ?_⟩
  · exact key_ignores (attached_run (attached.free i) ms) (detached_run hdetached ms).deaf
  · exact back_goesOn (detached_run hdetached ms)

/-- A page on which the container has a class and no id. -/
def marked : Page :=
  { Page.plain (.response 200 (.text "\"yes\"")) with
    elements :=
      [{ tag := "input", id := Options.standard.inputId },
        { tag := "div", classes := "wide\t" ++ Options.standard.transcriptId }] }

def asked : Browser :=
  [Move.mount .standard, .type 0 "hi", .key 0 "Enter" keyEvent].foldl next
    (opened marked ⟨fun _ => .ofOctets (.replicate 8 0), 0⟩)

end Parley.Browser

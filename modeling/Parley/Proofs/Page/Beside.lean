import Parley.Proofs.Controller.Telling
import Parley.Proofs.Exchange.Alike
import Parley.Proofs.Page.Mounting

/-!
# Two pages side by side

Of two pages the one has other replies, and lacks the listeners of the widgets that are `gone`.

* `Page.Beside`, `Widget.Beside`, `Browser.Beside` : pages that differ like that, and what has been mounted on them;
* `perform_beside`, `performAll_beside`, `carryOut_beside`, `act_beside` : what a widget's chat does is the same on
  both;
* `Browser.Spares`, `step_beside` : every move that has nothing to do with the widgets that are gone;
* `runs_beside` : runs of such moves.
-/

namespace Parley

open Exchange (Arrival Prepared Script Told)

theorem Controller.Step.Tells.told {α : Type} {a a' : Option Arrival} {s s' : Controller.Step α}
    {T : List Log.Event → List Log.Event → Prop} (h : Controller.Step.Tells a a' s s')
    (ha : Option.Rel (Arrival.Alike T) a a') :
    s'.result = s.result ∧ s'.state = s.state ∧ Told Controller.Effect.log T s.effects s'.effects := by
  cases h with
  | intro result state before after =>
    refine ⟨rfl, rfl, ?_⟩
    show Told _ T (before ++ _ ++ after) (before ++ _ ++ after)
    rw [List.append_assoc, List.append_assoc]
    refine (Told.refl before).append ?_
    cases ha with
    | none => exact .refl _
    | some ha => exact .other ha.log (.refl after)

namespace Page

/-- Other replies, and not the listeners of the widgets that are gone. -/
structure Beside (R : Reply → Reply → Prop) (gone : Nat → Bool) (p p' : Page) : Prop where
  rest : p' = { p with listeners := p.listeners.filter (fun l => !gone l.widget), replies := p'.replies }
  replies : p.replies.Alike R p'.replies

/-- Replies that are alike come to the same, and `T` is what may be told of them. -/
structure Means (R : Reply → Reply → Prop) (T : List Log.Event → List Log.Event → Prop) : Prop where
  refl : ∀ r, R r r
  alike : ∀ r r', R r r' → ∀ url, (r.arrival url).Alike T (r'.arrival url)

theorem Means.silent {R : Reply → Reply → Prop} {T : List Log.Event → List Log.Event → Prop} (h : Means R T) :
    T [] [] :=
  (h.alike (.rejected (.text "")) _ (h.refl _) "").log

/-- The same widget. One that is gone is freed, and its chat may not have seen the page since. -/
structure Widget.Beside (gone : Bool) (w w' : Widget) : Prop where
  rest : w' = { w with chat := w'.chat, freed := w.freed || gone }
  chat : gone = false → w'.chat = w.chat
  chatOn : ∀ p, w'.chatOn p = w.chatOn p

section Widget
variable {g : Bool} {w w' : Widget}

theorem Widget.Beside.eq (h : Widget.Beside false w w') : w' = w := by
  obtain ⟨rest, chat, -⟩ := h
  rw [rest, chat rfl, Bool.or_false]

theorem Widget.Beside.refl (w : Widget) : Widget.Beside false w w := ⟨by rw [Bool.or_false], fun _ => rfl, fun _ => rfl⟩

theorem Widget.Beside.of_eq_false (hg : g = false) (w : Widget) : Widget.Beside g w w := hg ▸ .refl w

theorem Widget.Beside.container (h : Widget.Beside g w w') : w'.container = w.container := by rw [h.rest]

theorem Widget.Beside.url (h : Widget.Beside g w w') : w'.url = w.url := by rw [h.rest]

theorem Widget.Beside.field (h : Widget.Beside g w w') : w'.field = w.field := by rw [h.rest]

/-- Chats that see the page now are the same again. -/
theorem Widget.Beside.saw (h : Widget.Beside g w w') (chat : Controller) :
    Widget.Beside g { w with chat } { w' with chat } := by
  refine ⟨?_, fun _ => rfl, fun p => ?_⟩
  · rw [h.rest]
  · rw [h.rest]
    rfl

/-- It does not matter that only one of them has seen the page. -/
theorem Widget.Beside.looked (h : Widget.Beside true w w') (p : Page) :
    Widget.Beside true { w with chat := w.chatOn p } w' :=
  ⟨h.rest, nofun, h.chatOn⟩

end Widget

section Beside
variable {R : Reply → Reply → Prop} {T : List Log.Event → List Log.Event → Prop} {gone : Nat → Bool} {p p' : Page}
  {g : Bool} {w w' : Widget}

theorem Beside.arrived? (h : p.Beside R gone p') (means : Means R T) (n : Nat) (url : String) :
    Option.Rel (Arrival.Alike T) (p.arrived? n url) (p'.arrived? n url) := by
  have hr := h.replies.answer? n
  unfold Page.arrived?
  generalize p.replies.answer? n = x, p'.replies.answer? n = x' at hr
  cases hr with
  | none => exact .none
  | some hr => exact .some (means.alike _ _ hr url)

theorem Beside.answer? (h : p.Beside R gone p') (means : Means R T) (url : String) :
    Option.Rel (Arrival.Alike T) (p.answer? url) (p'.answer? url) := by
  have ho : p'.obstacle = p.obstacle := by
    rw [h.rest]
    rfl
  have hr := h.replies.next
  unfold Page.answer?
  rw [ho]
  cases p.obstacle with
  | some o => exact .some ⟨rfl, means.silent⟩
  | none =>
    dsimp only
    generalize p.replies.next = x, p'.replies.next = x' at hr
    cases hr with
    | none => exact .none
    | some hr => exact .some (means.alike _ _ hr url)

theorem Beside.chatOn (h : p.Beside R gone p') (hw : w.Beside g w') : w'.chatOn p' = w.chatOn p := by
  rw [hw.chatOn, h.rest]
  rfl

theorem Beside.elements (h : p.Beside R gone p') : p'.elements = p.elements := by rw [h.rest]

theorem Beside.bind (h : p.Beside R gone p') (o : Options) : p'.bind o = p.bind o := by
  rw [h.rest]
  rfl

theorem Beside.endOf (h : p.Beside R gone p') (container : Nat) : p'.endOf container = p.endOf container := by
  rw [h.rest]
  rfl

theorem Beside.throws? (h : p.Beside R gone p') (call : Call) : p'.throws? call = p.throws? call := by
  rw [h.rest]
  rfl

theorem Beside.later (h : p.Beside R gone p') : p.later.Beside R gone p'.later := by
  obtain ⟨rest, replies⟩ := h
  refine ⟨?_, replies⟩
  rw [rest]
  rfl

theorem Beside.modify (h : p.Beside R gone p') (element : Nat) (f : Element → Element) :
    (p.modify element f).Beside R gone (p'.modify element f) := by
  obtain ⟨rest, replies⟩ := h
  refine ⟨?_, replies⟩
  rw [rest]
  rfl

theorem Beside.listeners (h : p.Beside R gone p') :
    p'.listeners = p.listeners.filter fun l => !gone l.widget := by rw [h.rest]

theorem Beside.listen (h : p.Beside R gone p') {l : Listener} (hl : gone l.widget = false) :
    Beside R gone { p with listeners := p.listeners ++ [l] } { p' with listeners := p'.listeners ++ [l] } := by
  refine ⟨?_, h.replies⟩
  rw [h.listeners, h.rest, List.filter_append, List.filter_singleton, hl]
  rfl

theorem Beside.detach (h : p.Beside R gone p') (i : Nat) :
    Beside R gone { p with listeners := p.listeners.filter fun l => l.widget != i }
      { p' with listeners := p'.listeners.filter fun l => l.widget != i } := by
  refine ⟨?_, h.replies⟩
  rw [h.listeners, h.rest, List.filter_filter, List.filter_filter]
  simp only [Bool.and_comm]

theorem render_beside (h : p.Beside R gone p') (element : Nat) (e : Transcript.Entry) :
    (p'.render element e).2 = (p.render element e).2 ∧
      (p.render element e).1.Beside R gone (p'.render element e).1 := by
  unfold Page.render
  rw [h.throws?]
  cases p.throws? .createElement with
  | some v => exact ⟨rfl, h.later⟩
  | none =>
    dsimp only
    rw [h.later.throws?]
    cases p.later.throws? .appendChild with
    | some v => exact ⟨rfl, h.later.later⟩
    | none => exact ⟨rfl, h.later.later.modify _ _⟩

theorem send_beside (h : p.Beside R gone p') (url : String) (r : Exchange.Request) :
    (p'.send url r).2 = (p.send url r).2 ∧ (p.send url r).1.Beside R gone (p'.send url r).1 := by
  have ho : p'.obstacle = p.obstacle := by
    rw [h.rest]
    rfl
  unfold Page.send
  rw [ho]
  split
  · exact ⟨rfl, h⟩
  · refine ⟨rfl, ?_, h.replies.take⟩
    rw [h.rest]

theorem perform_beside (h : p.Beside R gone p') (hw : w.Beside g w') (e : Controller.Effect) :
    (p'.perform w' e).2 = (p.perform w e).2 ∧ (p.perform w e).1.Beside R gone (p'.perform w' e).1 := by
  cases e with
  | log e => exact ⟨rfl, h⟩
  | post n r =>
    show (p'.send w'.url r).2 = _ ∧ Page.Beside R gone _ (p'.send w'.url r).1
    rw [hw.url]
    exact send_beside h w.url r
  | notify message =>
    refine ⟨?_, h⟩
    show p'.alert message = p.alert message
    unfold Page.alert
    rw [h.throws?]
  | view call =>
    cases call with
    | render e =>
      show (p'.render w'.container e).2 = _ ∧ Page.Beside R gone _ (p'.render w'.container e).1
      rw [hw.container]
      exact render_beside h w.container e
    | scrollTo offset =>
      show (p'.scrollTo w'.container offset).2 = _ ∧ Page.Beside R gone _ (p'.scrollTo w'.container offset).1
      rw [hw.container]
      exact ⟨rfl, h.modify _ _⟩

theorem performAll_log (p : Page) (w : Widget) (l : List Log.Event) (es : List Controller.Effect) :
    p.performAll w (l.map .log ++ es) = ((p.performAll w es).1, l.map .log ++ (p.performAll w es).2) := by
  induction l with
  | nil => rfl
  | cons e l ih =>
    show ((p.performAll w (l.map .log ++ es)).1, Effect.log e :: (p.performAll w (l.map .log ++ es)).2) = _
    rw [ih]
    rfl

/-- Effects that differ in what is told are carried out alike. -/
theorem performAll_beside (h : p.Beside R gone p') (hw : w.Beside g w') {es es' : List Controller.Effect}
    (he : Told .log T es es') :
    Told .log T (p.performAll w es).2 (p'.performAll w' es').2 ∧
      (p.performAll w es).1.Beside R gone (p'.performAll w' es').1 := by
  induction he generalizing p p' with
  | nil => exact ⟨.nil, h⟩
  | same e _ ih =>
    obtain ⟨seen, beside⟩ := perform_beside h hw e
    obtain ⟨rest, beside⟩ := ih beside
    refine ⟨?_, beside⟩
    show Told _ T ((p.perform w e).2 ++ _) ((p'.perform w' e).2 ++ _)
    rw [seen]
    exact (Told.refl _).append rest
  | other hl _ ih =>
    obtain ⟨rest, beside⟩ := ih h
    rw [performAll_log, performAll_log]
    exact ⟨.other hl rest, beside⟩

theorem carryOut_beside (h : p.Beside R gone p') (hw : w.Beside g w') (chat : Controller)
    {es es' : List Controller.Effect} (he : Told .log T es es') :
    Told .log T (p.carryOut w chat es).2 (p'.carryOut w' chat es').2 ∧
      (p.carryOut w chat es).1.Beside R gone (p'.carryOut w' chat es').1 := by
  refine performAll_beside ?_ hw he
  obtain ⟨rest, replies⟩ := h
  refine ⟨?_, replies⟩
  rw [rest, hw.field]
  rfl

end Beside

end Page

namespace Browser

open Page (Effect Listener Means Reply Task Widget)

/-- The widgets that are gone are freed, their listeners are not attached, and other replies may come. -/
structure Beside (R : Reply → Reply → Prop) (gone : Nat → Bool) (b b' : Browser) : Prop where
  page : b.page.Beside R gone b'.page
  widgets : ∀ i : Nat, Option.Rel (Widget.Beside (gone i)) b.widgets[i]? b'.widgets[i]?
  tasks : b'.tasks = b.tasks
  supply : b'.supply = b.supply
  mounted : ∀ i, gone i = true → i < b.widgets.length

/-- Two outcomes are the same, but for what is told of replies, and leave the browsers side by side. -/
structure Outcome.Beside {α : Type} (R : Reply → Reply → Prop) (T : List Log.Event → List Log.Event → Prop)
    (gone : Nat → Bool) (o o' : Outcome α) : Prop where
  result : o'.result = o.result
  browser : o.browser.Beside R gone o'.browser
  effects : Told Effect.log T o.effects o'.effects

section Beside
variable {R : Reply → Reply → Prop} {T : List Log.Event → List Log.Event → Prop} {gone : Nat → Bool} {b b' : Browser}

theorem Outcome.Beside.map {α β : Type} {o o' : Outcome α} (h : o.Beside R T gone o') (f : α → β) :
    (o.map f).Beside R T gone (o'.map f) :=
  ⟨congrArg f h.result, h.browser, h.effects⟩

theorem Outcome.Beside.after {α : Type} {o o' : Outcome α} (h : o.Beside R T gone o') {es es' : List Effect}
    (he : Told Effect.log T es es') : (o.after es).Beside R T gone (o'.after es') :=
  ⟨h.result, h.browser, he.append h.effects⟩

theorem Beside.length (h : b.Beside R gone b') : b'.widgets.length = b.widgets.length := by
  have hle : ∀ n, b'.widgets.length ≤ n ↔ b.widgets.length ≤ n := fun n => by
    rw [← List.getElem?_eq_none_iff, ← List.getElem?_eq_none_iff]
    have hn := h.widgets n
    generalize b.widgets[n]? = x, b'.widgets[n]? = x' at hn
    cases hn with
    | none => exact Iff.rfl
    | some => exact ⟨nofun, nofun⟩
  exact Nat.le_antisymm ((hle _).mpr (Nat.le_refl _)) ((hle _).mp (Nat.le_refl _))

theorem Beside.widget (h : b.Beside R gone b') {i : Nat} {w : Widget} (hw : b.widgets[i]? = some w) :
    ∃ w', b'.widgets[i]? = some w' ∧ w.Beside (gone i) w' := by
  have hi := h.widgets i
  rw [hw] at hi
  generalize b'.widgets[i]? = x' at hi
  cases hi with
  | some hw' => exact ⟨_, rfl, hw'⟩

theorem Beside.unmounted (h : b.Beside R gone b') {i : Nat} (hw : b.widgets[i]? = none) : b'.widgets[i]? = none := by
  rw [List.getElem?_eq_none_iff] at hw ⊢
  exact h.length.symm ▸ hw

theorem Beside.replaced (h : b.Beside R gone b') {i : Nat} {v v' : Widget} (hv : v.Beside (gone i) v') (j : Nat) :
    Option.Rel (Widget.Beside (gone j)) (b.widgets.set i v)[j]? (b'.widgets.set i v')[j]? := by
  rw [List.getElem?_set, List.getElem?_set, h.length]
  by_cases hj : i = j
  · subst hj
    rw [if_pos rfl, if_pos rfl]
    split
    · exact .some hv
    · exact .none
  · rw [if_neg hj, if_neg hj]
    exact h.widgets j

theorem Beside.onPage (h : b.Beside R gone b') {p p' : Page} (hp : p.Beside R gone p') :
    Browser.Beside R gone { b with page := p } { b' with page := p' } :=
  ⟨hp, h.widgets, h.tasks, h.supply, h.mounted⟩

theorem Beside.replace (h : b.Beside R gone b') {i : Nat} {v v' : Widget} (hv : v.Beside (gone i) v') :
    Browser.Beside R gone { b with widgets := b.widgets.set i v } { b' with widgets := b'.widgets.set i v' } := by
  refine ⟨h.page, h.replaced hv, h.tasks, h.supply, fun j hj => ?_⟩
  dsimp only
  rw [List.length_set]
  exact h.mounted j hj

/-- What a widget's chat does on one page it does on the other. -/
theorem act_beside {α : Type} (h : b.Beside R gone b') {i : Nat} {w w' : Widget} (hw : w.Beside (gone i) w')
    {f f' : Controller → Controller.Step α} (hf : ∀ c, (f' c).result = (f c).result ∧ (f' c).state = (f c).state ∧
      Told .log T (f c).effects (f' c).effects) : (b.act i w f).Beside R T gone (b'.act i w' f') := by
  obtain ⟨result, state, effects⟩ := hf (w.chatOn b.page)
  rw [act_eq, act_eq, h.page.chatOn hw, state]
  obtain ⟨seen, beside⟩ := Page.carryOut_beside h.page hw (f (w.chatOn b.page)).state effects
  exact ⟨result, (h.replace (hw.saw _)).onPage beside, seen⟩

theorem act_same {α : Type} (h : b.Beside R gone b') {i : Nat} {w w' : Widget} (hw : w.Beside (gone i) w')
    (f : Controller → Controller.Step α) : (b.act i w f).Beside R T gone (b'.act i w' f) :=
  act_beside h hw fun _ => ⟨rfl, rfl, .refl _⟩

theorem Beside.advance (h : b.Beside R gone b') : b.advance.Beside R gone b'.advance :=
  ⟨h.page, h.widgets, h.tasks, congrArg Session.Supply.advance h.supply, h.mounted⟩

theorem Beside.dispatch (h : b.Beside R gone b') (i : Nat) (exchange : Option Nat) :
    (b.dispatch i exchange).Beside R gone (b'.dispatch i exchange) := by
  cases exchange with
  | none => exact h
  | some n => exact ⟨h.page, h.widgets, congrArg (· ++ _) h.tasks, h.supply, h.mounted⟩

theorem Beside.held? (h : b.Beside R gone b') {i : Nat} (hi : gone i = false) : b'.held? i = b.held? i := by
  have hw := h.widgets i
  rw [hi] at hw
  unfold Browser.held?
  generalize b.widgets[i]? = x, b'.widgets[i]? = x' at hw
  cases hw with
  | none => rfl
  | some hw => rw [hw.eq]

theorem act_held {α : Type} (h : b.Beside R gone b') {i : Nat} (hi : gone i = false) (w : Widget)
    (f : Controller → Controller.Step α) : (b.act i w f).Beside R T gone (b'.act i w f) :=
  act_same h (.of_eq_false hi w) f

theorem Beside.new (h : b.Beside R gone b') {i : Nat} (hi : b.widgets.length ≤ i) : gone i = false := by
  cases hg : gone i with
  | false => rfl
  | true => exact absurd (h.mounted i hg) (Nat.not_lt_of_le hi)

theorem joined_beside (h : b.Beside R gone b') (o : Page.Options) (field container : Nat) :
    (b.joined o field container).Beside R gone (b'.joined o field container) := by
  have hnewcomer : newcomer b'.page o field container = newcomer b.page o field container := by
    rw [h.page.rest]
    rfl
  have hloaded : ∀ w, loaded b'.page w = loaded b.page w := fun w =>
    congrArg (fun chat : Controller => { w with chat := chat.load.state }) (h.page.chatOn (.refl w))
  have hpage : (b.page.atEnd container).Beside R gone (b'.page.atEnd container) := by
    unfold Page.atEnd
    rw [h.page.endOf]
    exact h.page.modify _ _
  unfold joined
  rw [hnewcomer, hloaded, h.length]
  generalize loaded b.page _ = w
  refine ⟨hpage.listen (h.new (Nat.le_refl _)), fun i => ?_, h.tasks, h.supply, fun i hi => ?_⟩
  · dsimp only
    rw [List.getElem?_append, List.getElem?_append, h.length]
    split
    · exact h.widgets i
    · next hi =>
      rw [h.new (Nat.le_of_not_lt hi)]
      cases [w][i - b.widgets.length]? with
      | none => exact .none
      | some v => exact .some (.refl v)
  · rw [List.length_append]
    exact Nat.lt_add_right 1 (h.mounted i hi)

theorem mount_beside (h : b.Beside R gone b') (o : Page.Options) : (b.mount o).Beside R T gone (b'.mount o) := by
  have hbind := h.page.bind o
  cases hb : b.page.bind o with
  | error e =>
    rw [mount_unbound hb, mount_unbound (hbind.trans hb)]
    exact ⟨rfl, h, .refl _⟩
  | ok bound =>
    cases ht : b.page.throws? .addEventListener with
    | some v =>
      rw [mount_refused hb ht, mount_refused (hbind.trans hb) ((h.page.throws? _).trans ht)]
      exact ⟨rfl, h, .refl _⟩
    | none =>
      rw [mount_bound hb ht, mount_bound (hbind.trans hb) ((h.page.throws? _).trans ht), h.length, h.page.endOf]
      exact ⟨rfl, joined_beside h o _ _, .refl _⟩

theorem free_beside (h : b.Beside R gone b') {i : Nat} (hi : gone i = false) :
    (b.free i).Beside R T gone (b'.free i) := by
  unfold free
  rw [h.held? hi]
  cases hw : b.held? i with
  | none => exact ⟨rfl, h, .refl _⟩
  | some w =>
    dsimp only
    rw [h.page.throws?]
    have hfreed := h.replace (.of_eq_false hi { w with freed := true })
    cases b.page.throws? .removeEventListener with
    | some v => exact ⟨rfl, hfreed, .refl _⟩
    | none => exact ⟨rfl, hfreed.onPage (h.page.detach i), .refl _⟩

/-! ### Keys and tasks -/

/-- The browser after a widget has looked at the page. -/
def looked (b : Browser) (i : Nat) (w : Widget) : Browser :=
  { b with widgets := b.widgets.set i { w with chat := w.chatOn b.page } }

/-- A widget that hears of a key that submits nothing only looks at the page. -/
theorem tell_other {k : String} (hk : Controller.isSubmitKey k = false) {i : Nat} {w : Widget}
    (hw : b.widgets[i]? = some w) (is : List Nat) : tell k (i :: is) b = tell k is (b.looked i w) := by
  rw [tell, hw]
  dsimp only
  rw [act_eq, Controller.key_other hk, Page.carryOut_chatOn b.page w (w.chatOn b.page) rfl rfl]
  rfl

theorem Beside.looked (h : b.Beside R gone b') {i : Nat} (hi : gone i = true) {w : Widget}
    (hw : b.widgets[i]? = some w) : (b.looked i w).Beside R gone b' := by
  obtain ⟨w', hw', beside⟩ := h.widget hw
  rw [hi] at beside
  unfold Browser.looked
  refine ⟨h.page, fun j => ?_, h.tasks, h.supply, fun j hj => ?_⟩
  · dsimp only
    rw [getElem?_replaced hw]
    split
    · next hj =>
      rw [hj, hw', hi]
      exact .some (beside.looked b.page)
    · exact h.widgets j
  · dsimp only
    rw [List.length_set]
    exact h.mounted j hj

/-- Widgets that are gone need not be told of keys that submit nothing. -/
theorem tell_beside (h : b.Beside R gone b') {k : String} {is : List Nat}
    (spares : Controller.isSubmitKey k = true → ∀ i ∈ is, gone i = false) :
    (tell k is b).Beside R T gone (tell k (is.filter fun i => !gone i) b') := by
  induction is generalizing b b' with
  | nil => exact ⟨rfl, h, .refl _⟩
  | cons i is ih =>
    have hrest := fun hk j hj => spares hk j (List.mem_cons_of_mem i hj)
    cases hi : gone i with
    | true =>
      -- it looks at the page where it hears of the key, which is all that it does
      have hk : Controller.isSubmitKey k = false :=
        Bool.eq_false_iff.mpr fun hk => Bool.false_ne_true ((spares hk i List.mem_cons_self).symm.trans hi)
      rw [List.filter_cons_of_neg (by rw [hi]; exact Bool.false_ne_true)]
      cases hw : b.widgets[i]? with
      | none =>
        rw [tell, hw]
        exact ih h hrest
      | some w =>
        rw [tell_other hk hw]
        exact ih (h.looked hi hw) hrest
    | false =>
      rw [List.filter_cons_of_pos (by rw [hi]; rfl), tell, tell]
      cases hw : b.widgets[i]? with
      | none =>
        rw [h.unmounted hw]
        exact ih h hrest
      | some w =>
        obtain ⟨w', hw', beside⟩ := h.widget hw
        rw [hw']
        dsimp only
        have hact := act_same (T := T) h beside fun c => c.key k
        generalize b.act i w _ = o, b'.act i _ _ = o' at hact
        rw [hact.result]
        exact ((ih (hact.browser.dispatch i o.result.sent) hrest).map _).after hact.effects

theorem poll_told {x x' : Option Arrival} (ha : Option.Rel (Arrival.Alike T) x x') (c : Controller) (fresh : SessionId)
    (i : Nat) :
    (c.poll fresh (fun _ _ => x') i).result = (c.poll fresh (fun _ _ => x) i).result ∧
      (c.poll fresh (fun _ _ => x') i).state = (c.poll fresh (fun _ _ => x) i).state ∧
      Told .log T (c.poll fresh (fun _ _ => x) i).effects (c.poll fresh (fun _ _ => x') i).effects := by
  have hheard : Option.Rel (Arrival.Alike T) (c.heard? i fresh fun _ _ => x) (c.heard? i fresh fun _ _ => x') := by
    unfold Controller.heard?
    cases c.asked? i fresh with
    | none => exact .none
    | some q => exact ha
  refine (Controller.poll_tells ?_).told hheard
  generalize c.heard? i fresh (fun _ _ => x) = y, c.heard? i fresh (fun _ _ => x') = y' at hheard
  cases hheard with
  | none => exact .none
  | some hy => exact .some hy.result

/-- What has come for the request of a task, or comes at once when it is made. -/
def answerOf? (b : Browser) (url : String) (t : Task) : Option Arrival :=
  match t.request with
  | none => b.page.answer? url
  | some n => b.page.arrived? n url

/-- What is left of a task whose exchange was polled, when so many requests were made before. -/
def leftOf (t : Task) (requests : Nat) : Controller.Progress → Option Task
  | .waiting => some { t with request := some (t.request.getD requests) }
  | .unknown | .gone | .delivered _ | .failed _ => none

def endingOf : Controller.Progress → List Effect
  | .delivered reply => [.log (delivered reply.exchange)]
  | .unknown | .gone | .waiting | .failed _ => []

theorem poll_unmounted {t : Task} (hw : b.widgets[t.widget]? = none) : b.poll t = ⟨none, b, []⟩ := by
  rw [poll, hw]

theorem poll_mounted {t : Task} {w : Widget} (hw : b.widgets[t.widget]? = some w) :
    let o := b.act t.widget w fun c => c.poll b.supply.fresh (fun _ _ => b.answerOf? w.url t) t.exchange
    b.poll t = ⟨leftOf t b.page.requestCount o.result, o.browser.advance, o.effects ++ endingOf o.result⟩ := by
  rw [poll, hw]
  unfold answerOf?
  dsimp only
  generalize b.act t.widget w _ = o
  obtain ⟨result, browser, effects⟩ := o
  cases result with
  | delivered r => rfl
  | _ =>
    show Outcome.mk _ _ effects = Outcome.mk _ _ (effects ++ [])
    rw [List.append_nil]
    rfl

section Poll
variable (means : Means R T)
include means

theorem answerOf?_beside (h : b.Beside R gone b') (url : String) (t : Task) :
    Option.Rel (Arrival.Alike T) (b.answerOf? url t) (b'.answerOf? url t) := by
  unfold answerOf?
  cases t.request with
  | none => exact h.page.answer? means url
  | some n => exact h.page.arrived? means n url

theorem poll_beside (h : b.Beside R gone b') (t : Task) : (b.poll t).Beside R T gone (b'.poll t) := by
  cases hw : b.widgets[t.widget]? with
  | none =>
    rw [poll_unmounted hw, poll_unmounted (h.unmounted hw)]
    exact ⟨rfl, h, .refl _⟩
  | some w =>
    obtain ⟨w', hw', beside⟩ := h.widget hw
    have ha := answerOf?_beside means h w.url t
    have hact := act_beside (T := T) h beside fun c => poll_told ha c b.supply.fresh t.exchange
    have hcount : b'.page.requestCount = b.page.requestCount := h.page.replies.taken.length_eq.symm
    rw [poll_mounted hw, poll_mounted hw', h.supply, hcount, beside.url]
    refine ⟨congrArg (leftOf t b.page.requestCount) hact.result, hact.browser.advance, hact.effects.append ?_⟩
    rw [← hact.result]
    exact .refl _

theorem pollAll_beside (h : b.Beside R gone b') (ts : List Task) :
    (pollAll ts b).Beside R T gone (pollAll ts b') := by
  induction ts generalizing b b' with
  | nil => exact ⟨rfl, h, .refl _⟩
  | cons t ts ih =>
    have hfirst := poll_beside means h t
    rw [pollAll, pollAll, hfirst.result]
    exact ((ih hfirst.browser).map _).after hfirst.effects

theorem run_beside (h : b.Beside R gone b') : b.run.Beside R T gone b'.run := by
  have hall := pollAll_beside means h b.tasks
  unfold run
  rw [h.tasks]
  dsimp only
  rw [hall.result]
  exact ⟨rfl, ⟨hall.browser.page, hall.browser.widgets, rfl, hall.browser.supply, hall.browser.mounted⟩, hall.effects⟩

theorem post_beside (h : b.Beside R gone b') (url : String) (r : Exchange.Request) :
    (b.post url r).Beside R T gone (b'.post url r) := by
  obtain ⟨seen, beside⟩ := Page.send_beside h.page url r
  have ha := h.page.answer? means url
  unfold post
  dsimp only
  rw [seen]
  generalize b.page.answer? url = x, b'.page.answer? url = x' at ha
  cases ha with
  | none => exact ⟨rfl, h.onPage beside, .refl _⟩
  | some ha =>
    refine ⟨congrArg some ha.result, h.onPage beside, ?_⟩
    have htold : Told Effect.log T (_ ++ []) (_ ++ []) := .other ha.log .nil
    rw [List.append_nil, List.append_nil] at htold
    exact (Told.refl _).append htold

end Poll

/-! ### Moves -/

def Move.widget? : Move → Option Nat
  | .free i | .send i | .inFlight i | .sessionId i | .resetSession i => some i
  | _ => none

/-- The move has nothing to do with the widgets that are gone: a script does not use them, and they do not hear of
Enter. -/
structure Spares (b : Browser) (gone : Nat → Bool) (m : Move) : Prop where
  widget : ∀ i, m.widget? = some i → gone i = false
  key : ∀ element k, m = .key element k keyEvent → Controller.isSubmitKey k = true →
    ∀ l ∈ b.page.listeners, l.element = element → gone l.widget = false

inductive Move.Alike (R : Reply → Reply → Prop) : Move → Move → Prop
  | same (m : Move) : Alike R m m
  | release (n : Nat) {r r' : Reply} (h : R r r') : Alike R (.release n r) (.release n r')
  | prepare {p p' : Prepared Reply} (h : p.Alike R p') : Alike R (.prepare p) (.prepare p')

/-- The widgets that listen at an element, in the order in which they hear. -/
def hearers (b : Browser) (element : Nat) : List Nat :=
  (b.page.listeners.filter fun l => l.element == element).map Listener.widget

theorem step_key_absent {element : Nat} (h : b.page.elements[element]? = none) (k event : String) :
    b.step (.key element k event) = ⟨.prevented none, b, []⟩ := by
  unfold step
  dsimp only
  rw [key, h]
  rfl

/-- Nobody listens to other events. -/
theorem step_key_other {element : Nat} {e : Page.Element} (h : b.page.elements[element]? = some e) (k : String)
    {event : String} (hevent : event ≠ keyEvent) :
    b.step (.key element k event) = ⟨.prevented (some false), b, []⟩ := by
  unfold step
  dsimp only
  rw [key, h, Option.map_some, if_neg hevent]
  rfl

theorem step_key_told {element : Nat} {e : Page.Element} (h : b.page.elements[element]? = some e) (k : String) :
    b.step (.key element k keyEvent) =
      (tell k (b.hearers element) b).map fun prevented => .prevented (some prevented) := by
  unfold step
  dsimp only
  rw [key, h, Option.map_some, if_pos rfl]
  rfl

/-- A key event does nothing at all, or those who listen are told of it. -/
theorem step_key (b : Browser) (element : Nat) (k event : String) :
    (∃ answer, b.step (.key element k event) = ⟨answer, b, []⟩) ∨
      event = keyEvent ∧ b.step (.key element k event) =
        (tell k (b.hearers element) b).map fun prevented => .prevented (some prevented) := by
  cases he : b.page.elements[element]? with
  | none => exact .inl ⟨_, step_key_absent he k event⟩
  | some e =>
    by_cases hevent : event = keyEvent
    · subst hevent
      exact .inr ⟨rfl, step_key_told he k⟩
    · exact .inl ⟨_, step_key_other he k hevent⟩

theorem key_beside (h : b.Beside R gone b') {element : Nat} {k event : String}
    (spares : b.Spares gone (.key element k event)) :
    (b.step (.key element k event)).Beside R T gone (b'.step (.key element k event)) := by
  have helements := h.page.elements
  cases he : b.page.elements[element]? with
  | none =>
    rw [step_key_absent he, step_key_absent (helements ▸ he)]
    exact ⟨rfl, h, .refl _⟩
  | some e =>
    by_cases hevent : event = keyEvent
    · subst hevent
      have hhearers : b'.hearers element = (b.hearers element).filter fun i => !gone i := by
        unfold hearers
        rw [h.page.listeners, List.filter_map, List.filter_filter, List.filter_filter]
        exact congrArg (List.map _) (List.filter_congr fun l _ => Bool.and_comm _ _)
      rw [step_key_told he, step_key_told (helements ▸ he), hhearers]
      refine (tell_beside h fun hk i hi => ?_).map _
      obtain ⟨l, hl, rfl⟩ := List.mem_map.mp hi
      obtain ⟨hl, helement⟩ := List.mem_filter.mp hl
      exact spares.key element k rfl hk l hl (eq_of_beq helement)
    · rw [step_key_other he k hevent, step_key_other (helements ▸ he) k hevent]
      exact ⟨rfl, h, .refl _⟩

theorem ofWidget_beside {α : Type} (h : b.Beside R gone b') (answer : α → Answer) {o o' : Option (Outcome α)}
    (ho : Option.Rel (Outcome.Beside R T gone) o o') :
    (b.ofWidget answer o).Beside R T gone (b'.ofWidget answer o') := by
  cases ho with
  | none => exact ⟨rfl, h, .refl _⟩
  | some ho => exact ho.map answer

theorem release_beside (h : b.Beside R gone b') (n : Nat) {r r' : Reply} (hr : R r r') :
    (b.step (.release n r)).Beside R T gone (b'.step (.release n r')) := by
  have hs := h.page.replies.release? n hr
  unfold step
  dsimp only
  generalize b.page.replies.release? n r = x, b'.page.replies.release? n r' = x' at hs
  cases hs with
  | none => exact ⟨rfl, h, .refl _⟩
  | some hs =>
    refine ⟨rfl, h.onPage ⟨?_, hs⟩, .refl _⟩
    rw [h.page.rest]

theorem prepare_beside (h : b.Beside R gone b') {p p' : Prepared Reply} (hp : p.Alike R p') :
    (b.step (.prepare p)).Beside R T gone (b'.step (.prepare p')) := by
  refine ⟨rfl, h.onPage ⟨?_, h.page.replies.prepare hp⟩, .refl _⟩
  rw [h.page.rest]

theorem send_held_beside (h : b.Beside R gone b') {i : Nat} (hi : gone i = false) :
    Option.Rel (Outcome.Beside R T gone) (b.send i) (b'.send i) := by
  unfold send
  rw [h.held? hi]
  cases hw : b.held? i with
  | none => exact .none
  | some w =>
    have hact := act_held (T := T) h hi w Controller.send
    refine .some ⟨rfl, ?_, hact.effects⟩
    dsimp only
    rw [hact.result]
    exact hact.browser.dispatch i _

theorem sessionId_beside (h : b.Beside R gone b') {i : Nat} (hi : gone i = false) :
    Option.Rel (Outcome.Beside R T gone) (b.sessionId i) (b'.sessionId i) := by
  unfold sessionId
  rw [h.held? hi, h.supply]
  cases hw : b.held? i with
  | none => exact .none
  | some w =>
    have hact := act_held (T := T) h hi w fun c => c.sessionId b.supply.fresh
    exact .some ⟨congrArg (Except.mapError _) hact.result, hact.browser.advance, hact.effects⟩

theorem resetSession_beside (h : b.Beside R gone b') {i : Nat} (hi : gone i = false) :
    Option.Rel (Outcome.Beside R T gone) (b.resetSession i) (b'.resetSession i) := by
  unfold resetSession
  rw [h.held? hi]
  cases hw : b.held? i with
  | none => exact .none
  | some w => exact .some ((act_held h hi w Controller.resetSession).map _)

theorem tabSessionId_beside (h : b.Beside R gone b') : b.tabSessionId.Beside R T gone b'.tabSessionId := by
  have hstore : b'.page.store = b.page.store := by
    rw [h.page.rest]
    rfl
  unfold tabSessionId
  rw [hstore, h.supply]
  dsimp only
  generalize Session.Identity.establish Session.defaultKey b.supply.fresh b.page.store = o
  have hpage : Page.Beside R gone { b.page with storage := o.store.entries }
      { b'.page with storage := o.store.entries } :=
    ⟨by rw [h.page.rest], h.page.replies⟩
  exact ⟨rfl, ⟨hpage, h.widgets, h.tasks, rfl, h.mounted⟩, .refl _⟩

section Step
variable (means : Means R T)
include means

theorem same_beside (h : b.Beside R gone b') {m : Move} (spares : b.Spares gone m) :
    (b.step m).Beside R T gone (b'.step m) := by
  cases m with
  | mount o => exact (mount_beside h o).map _
  | mountWith options =>
    unfold step
    dsimp only
    cases Page.Options.ofArgument options with
    | error e => exact ⟨rfl, h, .refl _⟩
    | ok o => exact (mount_beside h o).map _
  | free i => exact (free_beside h (spares.widget i rfl)).map _
  | send i => exact ofWidget_beside h _ (send_held_beside h (spares.widget i rfl))
  | inFlight i =>
    have hcount : b'.inFlight i = b.inFlight i := congrArg (Option.map _) (h.held? (spares.widget i rfl))
    exact ⟨congrArg (fun n => (Option.map Answer.count n).getD .noWidget) hcount, h, .refl _⟩
  | sessionId i => exact ofWidget_beside h _ (sessionId_beside h (spares.widget i rfl))
  | resetSession i => exact ofWidget_beside h _ (resetSession_beside h (spares.widget i rfl))
  | tabSessionId => exact (tabSessionId_beside h).map _
  | freshId => exact ⟨congrArg (fun s : Session.Supply => Answer.fresh s.fresh) h.supply, h.advance, .refl _⟩
  | load => exact ⟨rfl, h, .refl _⟩
  | post url r => exact (post_beside means h url r).map _
  | type element text =>
    exact ⟨congrArg (fun es => Answer.found (es[element]?).isSome) h.page.elements, h.onPage (h.page.modify _ _),
      .refl _⟩
  | key element k event => exact key_beside h spares
  | run => exact (run_beside means h).map _
  | release n r => exact release_beside h n (means.refl r)
  | prepare p => exact prepare_beside h (.refl means.refl p)
  | fault call v => exact ⟨rfl, h.onPage ⟨by rw [h.page.rest], h.page.replies⟩, .refl _⟩
  | alter window document storageEnabled => exact ⟨rfl, h.onPage ⟨by rw [h.page.rest], h.page.replies⟩, .refl _⟩
  | resize element sizes => exact ⟨rfl, h.onPage (h.page.modify _ _), .refl _⟩
  | write key value => exact ⟨rfl, h.onPage ⟨by rw [h.page.rest], h.page.replies⟩, .refl _⟩

/-- A move that has nothing to do with the widgets that are gone comes to the same on both pages. -/
theorem step_beside (h : b.Beside R gone b') {m m' : Move} (hm : m.Alike R m') (spares : b.Spares gone m) :
    (b.step m).Beside R T gone (b'.step m') := by
  cases hm with
  | same => exact same_beside means h spares
  | release n hr => exact release_beside h n hr
  | prepare hp => exact prepare_beside h hp

theorem runs_beside (h : b.Beside R gone b') {ms ms' : List Move} (hms : List.Forall₂ (Move.Alike R) ms ms')
    (spares : ∀ t ∈ Turn.list next b ms, t.state.Spares gone t.move) :
    List.Forall₂ (fun t t' => (t.state.step t.move).Beside R T gone (t'.state.step t'.move)) (Turn.list next b ms)
      (Turn.list next b' ms') ∧
      (ms.foldl next b).Beside R gone (ms'.foldl next b') := by
  induction hms generalizing b b' with
  | nil => exact ⟨.nil, h⟩
  | cons hm _ ih =>
    have hstep := step_beside means h hm (spares _ List.mem_cons_self)
    obtain ⟨hrest, hfinish⟩ := ih hstep.browser fun t ht => spares t (List.mem_cons_of_mem _ ht)
    exact ⟨.cons hstep hrest, hfinish⟩

end Step

end Beside

end Browser

end Parley

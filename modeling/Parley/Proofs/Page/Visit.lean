import Parley.Proofs.Page.Mirror
import Parley.Proofs.Runs

/-!
# Whatever happens on a page

* `mount_shows`, `free_shows`, `tell_shows`, `pollAll_shows`, … : what a move does to transcripts and to the page;
* `step_mirrors` : every move; `run_mirrors` : any number of them, and `Fated` what the page refuses meanwhile.
-/

namespace Parley.Browser

open Page (Effect Options Showing Task Widget)

section Moves
variable {b b' b'' : Browser} {seen extra : List Effect} {ss : List Showing}

theorem Shows.still (sound : b.Sound) (widgets : b'.widgets = b.widgets) (faults : b'.page.faults = b.page.faults)
    (children : ∀ e, b'.page.childrenOf? e = b.page.childrenOf? e) (marks : seen.filter Effect.isMark = [])
    (replies : ∀ reply, b.page.replies.Offers reply → b'.page.replies.Offers reply) : Shows b b' seen [] :=
  ⟨.still sound widgets children marks replies, .still faults⟩

/-- What has no part in the page and its widgets changes afterwards. -/
theorem Shows.onward (h : Shows b b' seen ss) (page : b''.page = b'.page) (widgets : b''.widgets = b'.widgets)
    (marks : extra.filter Effect.isMark = []) : Shows b b'' (seen ++ extra) ss := by
  have hstill : Shows b' b'' extra [] :=
    .still h.sound widgets (congrArg Page.faults page) (fun e => congrArg (·.childrenOf? e) page) marks
      fun reply hr => page ▸ hr
  exact List.append_nil ss ▸ h.trans hstill

theorem Shows.onward_silent (h : Shows b b' seen ss) (page : b''.page = b'.page) (widgets : b''.widgets = b'.widgets) :
    Shows b b'' seen ss :=
  List.append_nil seen ▸ h.onward page widgets (rfl : ([] : List Effect).filter Effect.isMark = [])

theorem Shows.before {early : List Effect} (h : Shows b b' seen ss) (marks : early.filter Effect.isMark = []) :
    Shows b b' (early ++ seen) ss := by
  refine ⟨⟨h.sound, ⟨h.paints.children, ?_⟩, h.entries, h.sources, h.widgets, h.replies⟩, h.heeds⟩
  rw [List.filter_append, marks, List.nil_append]
  exact h.paints.marks

theorem logs_unmarked (log : List Log.Event) : (log.map Effect.log).filter Effect.isMark = [] := by
  refine List.filter_eq_nil_iff.mpr fun e he => ?_
  obtain ⟨l, -, rfl⟩ := List.mem_map.mp he
  exact Bool.false_ne_true

theorem held?_eq_some {i : Nat} {w : Widget} (h : b.held? i = some w) : b.widgets[i]? = some w :=
  (Option.filter_eq_some_iff.mp h).1

theorem shows_nothing (sound : b.Sound) : ∃ ss, Shows b b [] ss :=
  ⟨[], .still sound rfl rfl (fun _ => rfl) rfl fun _ h => h⟩

/-! ## Keys and tasks -/

theorem tell_shows (sound : b.Sound) (key : String) (is : List Nat) :
    ∃ ss, Shows b (tell key is b).browser (tell key is b).effects ss := by
  induction is generalizing b with
  | nil => exact shows_nothing sound
  | cons i is ih =>
    rw [tell]
    cases hw : b.widgets[i]? with
    | none => exact ih sound
    | some w =>
      dsimp only
      obtain ⟨ss, hfirst⟩ := act_shows (fun c => c.key key) sound hw (Page.key_deals b.page w key)
      generalize b.act i w (fun c => c.key key) = o at hfirst
      have hdispatched : Shows b (o.browser.dispatch i o.result.sent) o.effects ss := by
        cases o.result.sent with
        | none => exact hfirst
        | some exchange => exact hfirst.onward_silent rfl rfl
      obtain ⟨ss', hrest⟩ := ih hdispatched.sound
      exact ⟨ss ++ ss', hdispatched.trans hrest⟩

theorem poll_shows (sound : b.Sound) (t : Task) : ∃ ss, Shows b (b.poll t).browser (b.poll t).effects ss := by
  rw [poll]
  cases hw : b.widgets[t.widget]? with
  | none => exact shows_nothing sound
  | some w =>
    dsimp only
    obtain ⟨ss, h⟩ := act_shows (fun c => c.poll b.supply.fresh _ t.exchange) sound hw
      (Page.poll_deals b.page w b.supply.fresh t.request t.exchange)
    refine ⟨ss, ?_⟩
    generalize b.act t.widget w _ = o at h
    split
    · exact h.onward_silent rfl rfl
    · exact h.onward rfl rfl rfl
    all_goals exact h.onward_silent rfl rfl

theorem pollAll_shows (sound : b.Sound) (ts : List Task) :
    ∃ ss, Shows b (pollAll ts b).browser (pollAll ts b).effects ss := by
  induction ts generalizing b with
  | nil => exact shows_nothing sound
  | cons t ts ih =>
    obtain ⟨ss, hfirst⟩ := poll_shows sound t
    obtain ⟨ss', hrest⟩ := ih hfirst.sound
    exact ⟨ss ++ ss', hfirst.trans hrest⟩

/-! ## Widgets -/

theorem Shows.mounted {w : Widget} (sound : b.Sound) (h : w.Sound b.page) (new : w.chat.transcript.entries = [])
    (listeners : List Page.Listener) :
    Shows b { b with page := { b.page with listeners }, widgets := b.widgets ++ [w] } [] [] := by
  refine ⟨.unshown (fun v hv => ?_) (fun _ => rfl) rfl (fun i => ?_) (fun i v hv => ?_) fun _ h => h, .still rfl⟩
  · rcases List.mem_append.mp hv with hv | hv
    · exact (sound v hv).on fun _ => rfl
    · obtain rfl := List.mem_singleton.mp hv
      exact h.on fun _ => rfl
  · unfold Browser.entries
    dsimp only
    rw [List.getElem?_append]
    split
    · rfl
    · next hi =>
      rw [List.getElem?_eq_none (Nat.le_of_not_lt hi)]
      cases hw : [w][i - b.widgets.length]? with
      | none => rfl
      | some v =>
        obtain rfl := List.mem_singleton.mp (List.mem_of_getElem? hw)
        exact new
  · exact ⟨v, (List.getElem?_append_left (List.getElem?_eq_some_iff.mp hv).1).trans hv, rfl, rfl, .refl _⟩

theorem isSome_childrenOf?_bind {p : Page} {o : Options} {field container : Nat}
    (h : p.bind o = .ok (field, container)) : (p.childrenOf? container).isSome = true := by
  have hfound : ∀ i < p.elements.length, (p.childrenOf? i).isSome = true := by
    intro i hi
    rw [Page.childrenOf?, Option.isSome_map, List.getElem?_eq_getElem hi]
    rfl
  have hcontainer : p.container o.transcriptId = .ok container := by
    unfold Page.bind at h
    split at h
    · cases h
    split at h
    · cases h
    split at h
    · cases h
    cases hc : p.container o.transcriptId with
    | error e =>
      rw [hc] at h
      cases h
    | ok i =>
      rw [hc] at h
      exact congrArg (fun pair : Nat × Nat => Except.ok pair.2) (Except.ok.inj h)
  unfold Page.container at hcontainer
  split at hcontainer
  · next i hi =>
    obtain rfl := Except.ok.inj hcontainer
    unfold Page.elementById? at hi
    split at hi
    · cases hi
    · exact hfound i (List.findIdx?_eq_some_iff_findIdx_eq.mp hi).1
  · split at hcontainer
    · cases hcontainer
    · next i hi =>
      obtain rfl := Except.ok.inj hcontainer
      obtain ⟨-, j, -, rfl⟩ := Page.queried_ok_iff.mp hi
      exact hfound j j.isLt
    · cases hcontainer

theorem mount_shows (sound : b.Sound) (o : Options) :
    ∃ ss, Shows b (b.mount o).browser (b.mount o).effects ss := by
  unfold mount
  cases hbind : b.page.bind o with
  | error e => exact shows_nothing sound
  | ok bound =>
    dsimp only
    cases b.page.throws? .addEventListener with
    | some v => exact ⟨[], .still sound rfl rfl (fun _ => rfl) rfl fun _ h => h⟩
    | none =>
      dsimp only
      let chat := Controller.start o.config.normalized .standard b.page.store {}
      let w : Widget := ⟨chat, bound.1, bound.2, o.config.normalized.requestUrl, false⟩
      let listeners := b.page.listeners ++ [⟨bound.1, b.widgets.length⟩]
      let b₁ : Browser := { b with page := { b.page with listeners }, widgets := b.widgets ++ [w] }
      have hsound : w.Sound b.page :=
        ⟨Controller.sound_start o.config.normalized .standard b.page.store {}, rfl, isSome_childrenOf?_bind hbind⟩
      have hmounted : Shows b b₁ [] [] := .mounted sound hsound rfl listeners
      have hw : b₁.widgets[b.widgets.length]? = some w := List.getElem?_concat_length
      obtain ⟨ss, hload⟩ := act_shows Controller.load hmounted.sound hw (Page.load_deals b₁.page w)
      exact ⟨ss, (hmounted.trans hload).before rfl⟩

/-- A widget that was mounted has nothing said yet. It is made of the normal form of its configuration. -/
theorem mount_ok {o : Options} {i : Nat} (h : (b.mount o).result = .ok i) :
    ∃ w, (b.mount o).browser.widgets[i]? = some w ∧ w.chat.transcript.entries = [] ∧
      w.chat.config = o.config.normalized.normalized ∧ w.url = o.config.normalized.requestUrl := by
  unfold mount at h ⊢
  generalize o.config.normalized = config at h ⊢
  cases hbind : b.page.bind o with
  | error e =>
    rw [hbind] at h
    exact nomatch h
  | ok bound =>
    rw [hbind] at h
    dsimp only at h ⊢
    cases ht : b.page.throws? .addEventListener with
    | some v =>
      rw [ht] at h
      exact nomatch h
    | none =>
      rw [ht] at h
      obtain rfl := Except.ok.inj h
      have hset : ∀ w w' : Widget, ((b.widgets ++ [w]).set b.widgets.length w')[b.widgets.length]? = some w' :=
        fun w w' => List.getElem?_set_self (by rw [List.length_append]; exact Nat.lt_succ_self _)
      exact ⟨_, hset _ _, rfl, rfl, rfl⟩

theorem free_shows (sound : b.Sound) (i : Nat) : ∃ ss, Shows b (b.free i).browser (b.free i).effects ss := by
  unfold free
  cases hw : b.held? i with
  | none => exact shows_nothing sound
  | some w =>
    have mounted := held?_eq_some hw
    have goes : w.Goes { w with freed := true } := ⟨rfl, rfl, .refl _⟩
    have hfreed : Shows b { b with widgets := b.widgets.set i { w with freed := true } } [] [] := by
      refine ⟨.unshown ?_ (fun _ => rfl) rfl (fun j => ?_) (goes_replaced mounted goes) fun _ h => h, .still rfl⟩
      · obtain ⟨htalk, hstandard, hcontainer⟩ := sound w (List.mem_of_getElem? mounted)
        exact sound.replaced ⟨htalk, hstandard, hcontainer⟩
      · rw [entries_replaced mounted]
        split
        · next hj =>
          rw [hj, entries_eq mounted]
        · rfl
    dsimp only
    cases b.page.throws? .removeEventListener with
    | some v => exact ⟨[], hfreed.onward rfl rfl rfl⟩
    | none =>
      have hdetached : Shows { b with widgets := b.widgets.set i { w with freed := true } }
          { b with
            page := { b.page with listeners := b.page.listeners.filter fun l => l.widget != i }
            widgets := b.widgets.set i { w with freed := true } } [] [] :=
        .still hfreed.sound rfl rfl (fun _ => rfl) rfl fun _ h => h
      exact ⟨[], hfreed.trans hdetached⟩

theorem ofWidget_shows {α : Type} (sound : b.Sound) (answer : α → Answer) {o? : Option (Outcome α)}
    (h : ∀ o, o? = some o → ∃ ss, Shows b o.browser o.effects ss) :
    ∃ ss, Shows b (b.ofWidget answer o?).browser (b.ofWidget answer o?).effects ss := by
  cases o? with
  | none => exact shows_nothing sound
  | some o => exact h o rfl

theorem send_shows (sound : b.Sound) (i : Nat) {o : Outcome Unit} (h : b.send i = some o) :
    ∃ ss, Shows b o.browser o.effects ss := by
  obtain ⟨w, hw, rfl⟩ := Option.map_eq_some_iff.mp h
  obtain ⟨ss, hact⟩ := act_shows Controller.send sound (held?_eq_some hw) (Page.send_deals b.page w)
  refine ⟨ss, ?_⟩
  dsimp only
  generalize b.act i w Controller.send = o at hact
  cases o.result with
  | none => exact hact
  | some exchange => exact hact.onward_silent rfl rfl

theorem sessionId_shows (sound : b.Sound) (i : Nat) {o : Outcome (Except Page.Error SessionId)}
    (h : b.sessionId i = some o) : ∃ ss, Shows b o.browser o.effects ss := by
  obtain ⟨w, hw, rfl⟩ := Option.map_eq_some_iff.mp h
  obtain ⟨ss, hact⟩ := act_shows (fun c => c.sessionId b.supply.fresh) sound (held?_eq_some hw)
    (Page.sessionId_deals b.page w b.supply.fresh)
  exact ⟨ss, hact.onward_silent rfl rfl⟩

theorem resetSession_shows (sound : b.Sound) (i : Nat) {o : Outcome (Except Page.Error Unit)}
    (h : b.resetSession i = some o) : ∃ ss, Shows b o.browser o.effects ss := by
  obtain ⟨w, hw, rfl⟩ := Option.map_eq_some_iff.mp h
  exact act_shows Controller.resetSession sound (held?_eq_some hw) (Page.resetSession_deals b.page w)

theorem post_shows (sound : b.Sound) (url : String) (r : Exchange.Request) :
    ∃ ss, Shows b (b.post url r).browser (b.post url r).effects ss := by
  have hsent : Shows b { b with page := (b.page.send url r).1 } (b.page.send url r).2 [] := by
    unfold Page.send
    split
    · exact .still sound rfl rfl (fun _ => rfl) rfl fun _ h => h
    · exact .still sound rfl rfl (fun _ => rfl) rfl fun _ h => h.take
  unfold post
  dsimp only
  cases b.page.answer? url with
  | none => exact ⟨[], hsent⟩
  | some a => exact ⟨[], hsent.onward rfl rfl (logs_unmarked a.log)⟩

/-! ## Moves -/

theorem key_shows (sound : b.Sound) (element : Nat) (key event : String) {o : Outcome Bool}
    (h : b.key element key event = some o) : ∃ ss, Shows b o.browser o.effects ss := by
  obtain ⟨e, -, rfl⟩ := Option.map_eq_some_iff.mp h
  split
  · exact tell_shows sound key _
  · exact shows_nothing sound

theorem step_shows (sound : b.Sound) {m : Move} (calm : ∀ call v, m ≠ .fault call v) :
    ∃ ss, Shows b (b.step m).browser (b.step m).effects ss := by
  cases m with
  | mount o => exact mount_shows sound o
  | mountWith options =>
    unfold step
    dsimp only
    cases Options.ofArgument options with
    | error e => exact shows_nothing sound
    | ok o => exact mount_shows sound o
  | free i => exact free_shows sound i
  | send i => exact ofWidget_shows sound _ fun o => send_shows sound i
  | sessionId i => exact ofWidget_shows sound _ fun o => sessionId_shows sound i
  | resetSession i => exact ofWidget_shows sound _ fun o => resetSession_shows sound i
  | tabSessionId => exact ⟨[], .still sound rfl rfl (fun _ => rfl) (logs_unmarked _) fun _ h => h⟩
  | inFlight | freshId | load | alter | write => exact ⟨[], .still sound rfl rfl (fun _ => rfl) rfl fun _ h => h⟩
  | post url r => exact post_shows sound url r
  | type element text =>
    exact ⟨[], .still sound rfl rfl (fun e => Page.childrenOf?_modify_same b.page element e fun _ => rfl) rfl
      fun _ h => h⟩
  | resize element sizes =>
    exact ⟨[], .still sound rfl rfl (fun e => Page.childrenOf?_modify_same b.page element e fun _ => rfl) rfl
      fun _ h => h⟩
  | key element k event =>
    unfold step
    dsimp only
    cases ho : b.key element k event with
    | none => exact shows_nothing sound
    | some o => exact key_shows sound element k event ho
  | run =>
    obtain ⟨ss, h⟩ := pollAll_shows sound b.tasks
    exact ⟨ss, h.onward_silent rfl rfl⟩
  | release n reply =>
    unfold step
    dsimp only
    cases hr : b.page.replies.release? n reply with
    | none => exact shows_nothing sound
    | some replies => exact ⟨[], .still sound rfl rfl (fun _ => rfl) rfl fun _ h => h.release hr⟩
  | prepare reply => exact ⟨[], .still sound rfl rfl (fun _ => rfl) rfl fun _ h => h.prepare reply⟩
  | fault call v => exact absurd rfl (calm call v)

/-- Whatever happens, what is added to transcripts is shown, so far as the page does not refuse it then. -/
theorem step_mirrors (sound : b.Sound) (m : Move) :
    ∃ ss, Mirrors b (b.step m).browser (b.step m).effects ss ∧
      ss.map (fun s => s.fate) = b.page.faults.fates ss.length := by
  by_cases calm : ∀ call v, m ≠ .fault call v
  · obtain ⟨ss, h⟩ := step_shows sound calm
    have hfates := h.heeds.fates
    rw [List.map_map, List.length_map] at hfates
    exact ⟨ss, h.toMirrors, hfates⟩
  · obtain ⟨call, hcall⟩ := not_forall.mp calm
    obtain ⟨v, hv⟩ := not_forall.mp hcall
    obtain rfl := not_not.mp hv
    exact ⟨[], .still sound rfl (fun _ => rfl) rfl fun _ h => h, rfl⟩

end Moves

/-! ## Runs -/

def next (b : Browser) (m : Move) : Browser := (b.step m).browser

def opened (page : Page) (supply : Session.Supply) : Browser := { page, supply }

def seenIn (ts : List (Turn Browser Move)) : List Effect := ts.flatMap fun t => (t.state.step t.move).effects

/-- The fates of the entries that a turn shows are what the page refuses then. -/
def Fated (t : Turn Browser Move) (ss : List Showing) : Prop :=
  ss.map (fun s => s.fate) = t.state.page.faults.fates ss.length

theorem run_mirrors {b : Browser} (sound : b.Sound) (ms : List Move) :
    ∃ shown : List (List Showing), List.Forall₂ Fated (Turn.list next b ms) shown ∧
      Mirrors b (ms.foldl next b) (seenIn (Turn.list next b ms)) shown.flatten := by
  induction ms generalizing b with
  | nil => exact ⟨[], .nil, .still sound rfl (fun _ => rfl) rfl fun _ h => h⟩
  | cons m ms ih =>
    obtain ⟨ss, hfirst, hfated⟩ := step_mirrors sound m
    obtain ⟨shown, hfates, hrest⟩ := ih hfirst.sound
    exact ⟨ss :: shown, .cons hfated hfates, hfirst.trans hrest⟩

theorem sound_run (page : Page) (supply : Session.Supply) (ms : List Move) :
    (ms.foldl next (opened page supply)).Sound := by
  have sound : (opened page supply).Sound := fun w hw => (List.not_mem_nil hw).elim
  obtain ⟨shown, -, h⟩ := run_mirrors sound ms
  exact h.sound

end Parley.Browser

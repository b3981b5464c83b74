import Mathlib.Data.Nat.Find
import Mathlib.Data.Nat.Init
import Parley.Proofs.Controller.Polling
import Parley.Proofs.Host.Run

/-!
# What becomes of typed text

The input field is changed by typing, which replaces all of it, and by submissions, which clear it.

* `Turn.typed?`, `Turn.submits`, `Turn.Idle` : a turn that types, one that submits, and one that does nothing;
* `Turn.input_after` : what is in the field after a turn; `Turn.idle_still` : an idle turn leaves everything as it is;
* `Run.typedAt`, `Run.openedAt`, `Run.field` : what a turn of a run types or makes, and the field before it;
* `Run.Source r m n` : turn `n` makes an exchange of what turn `m` typed;
* `Run.conserved` : every text is sent once, unless it is blank or was replaced.
-/

namespace Parley

open Controller (Pending)

/-! ## The field of a chat -/

namespace Controller

variable (c : Controller)

theorem complete_input (i : Nat) (id : Exchange.Id) (a : Exchange.Arrival) :
    (c.complete i id a).state.input = c.input := by
  obtain ⟨tracker, transcript, hs⟩ := complete_state c i id a
  simp [hs, setPhase]

theorem resume_input (answer : Nat → Exchange.Request → Option Exchange.Arrival) (i : Nat) (id : Exchange.Id) (n : Nat)
    (q : Exchange.Request) : (c.resume answer i id n q).state.input = c.input := by
  cases h : answer n q with
  | none => simp [resume_none c i h]
  | some a => simp [resume_some c i h, complete_input]

/-- Whatever becomes of an exchange, the field stays as it is. -/
theorem poll_input (fresh : SessionId) (answer : Nat → Exchange.Request → Option Exchange.Arrival) (i : Nat) :
    (c.poll fresh answer i).state.input = c.input := by
  have h := poll_polling c i fresh answer
  generalize c.poll fresh answer i = s at h ⊢
  cases h with
  | unknown | gone => rfl
  | refused => simp [Step.preceded, complete_input]
  | started => simp [Step.preceded, resume_input, handing, setPhase]
  | waiting => simp [resume_input]

end Controller

/-! ## One turn -/

namespace Turn

def typed? (t : Turn Host Host.Move) : Option String :=
  match t.move with
  | .type text => some text
  | _ => none

/-- What was typed is submitted, whether it is blank or not. -/
def submits (t : Turn Host Host.Move) : Bool := t.submitted?.isSome

/-- Blank text is submitted, or a key is pressed that does not submit. -/
inductive Idle (t : Turn Host Host.Move) : Prop
  | blank (submits : t.submits = true) (blank : Text.isBlankText t.before.input = true)
  | key {k : String} (move : t.move = .key k) (other : k ≠ Controller.submitKey)

def held (texts : List String) : List String := texts.filter fun text => !Text.isBlankText text

theorem held_append (texts texts' : List String) : held (texts ++ texts') = held texts ++ held texts' :=
  List.filter_append ..

variable (t : Turn Host Host.Move)

theorem submits_cases (h : t.submits = true) :
    t.move = .send ∨ ∃ k, t.move = .key k ∧ Controller.isSubmitKey k = true := by
  unfold submits submitted? at h
  split at h
  · exact .inl ‹_›
  · next k hm =>
    refine .inr ⟨k, hm, ?_⟩
    by_contra hk
    simp [hk] at h
  · simp at h

theorem typed?_of_submits (h : t.submits = true) : t.typed? = none := by
  rcases t.submits_cases h with hm | ⟨k, hm, -⟩ <;> simp [typed?, hm]

theorem submitted?_eq : t.submitted? = if t.submits then some t.before.input else none := by
  unfold submits submitted?
  split
  · rfl
  · split <;> rfl
  · rfl

theorem opened?_eq_some {t : Turn Host Host.Move} {p : Pending} (h : t.opened? = some p) :
    p.input = t.before.input := by
  have hi := t.opened?_input
  rw [h, submitted?_eq] at hi
  split at hi
  · exact Option.some.inj (Option.filter_eq_some_iff.mp hi.symm).1 |>.symm
  · exact nomatch hi

theorem opened?_isSome :
    t.opened?.isSome = (t.submits && !Text.isBlankText t.before.input) := by
  have hi := congrArg Option.isSome t.opened?_input
  rw [Option.isSome_map, Option.isSome_filter, submitted?_eq] at hi
  rw [hi]
  cases t.submits <;> rfl

theorem held_opened {t : Turn Host Host.Move} {p : Pending} (h : t.opened? = some p) :
    held [t.before.input] = [p.input] := by
  have hopened := t.opened?_isSome
  rw [h, Option.isSome_some, eq_comm, Bool.and_eq_true] at hopened
  rw [opened?_eq_some h]
  exact List.filter_cons_of_pos hopened.2

theorem opened?_of_typed? {t : Turn Host Host.Move} {text : String} (h : t.typed? = some text) : t.opened? = none := by
  cases ho : t.opened? with
  | none => rfl
  | some p =>
    have hopened := t.opened?_isSome
    rw [ho, Option.isSome_some, eq_comm, Bool.and_eq_true] at hopened
    rw [t.typed?_of_submits hopened.1] at h
    exact nomatch h

theorem step_submits {t : Turn Host Host.Move} (h : t.submits = true) :
    t.outcome.host = { t.state with chat := t.before.send.state } ∧ t.outcome.effects = t.before.send.effects := by
  obtain ⟨host, m⟩ := t
  rcases submits_cases _ h with rfl | ⟨k, rfl, hk⟩
  · exact ⟨rfl, rfl⟩
  · have ho : host.step (.key k) = host.outcome _ .key :=
      congrArg (host.outcome · .key) (Controller.key_submit hk host.chat)
    exact ⟨congrArg Host.Outcome.host ho, congrArg Host.Outcome.effects ho⟩

theorem input_kept {t : Turn Host Host.Move} (ht : t.typed? = none) (hs : t.submits = false) :
    t.after.input = t.before.input := by
  obtain ⟨h, m⟩ := t
  cases m with
  | type text => exact nomatch ht
  | send => exact nomatch hs
  | key k =>
    have hk : Controller.isSubmitKey k = false := by
      by_contra hne
      simp [submits, submitted?, hne] at hs
    have ho : h.step (.key k) = h.outcome _ .key := congrArg (h.outcome · .key) (Controller.key_other hk h.chat)
    exact congrArg (·.host.chat.input) ho
  | poll k =>
    show (h.step (.poll k)).host.chat.input = h.chat.input
    rw [(step_poll h k).1, Controller.poll_input]
  | release n a =>
    show (h.step (.release n a)).host.chat.input = h.chat.input
    unfold Host.step
    dsimp only
    split <;> rfl
  | sessionId =>
    show (Host.consume _).host.chat.input = h.chat.input
    rw [consume_chat]
    rfl
  | _ => rfl

/-- Typing replaces what is in the field, and an exchange takes it out; nothing else changes it. -/
theorem input_after : t.after.input =
    match t.typed? with
    | some text => text
    | none => if t.opened?.isSome then "" else t.before.input := by
  cases ht : t.typed? with
  | some text =>
    obtain ⟨h, m⟩ := t
    cases m <;> cases ht
    rfl
  | none =>
    dsimp only
    rw [opened?_isSome]
    cases hs : t.submits with
    | false => simp [input_kept ht hs]
    | true =>
      have hafter : t.after = t.before.send.state := congrArg Host.chat (step_submits hs).1
      cases hb : Text.isBlankText t.before.input with
      | true => simp [hafter, Controller.send_blank hb]
      | false => simp [hafter, Controller.send_typed hb]

/-- A turn makes an exchange of what was in the field, or keeps it, or replaces it by what is typed. -/
theorem held_after : ((t.opened?.map Pending.input).toList ++ held [t.after.input]).Sublist
    (held [t.before.input] ++ held t.typed?.toList) := by
  have hafter := t.input_after
  cases ht : t.typed? with
  | some text =>
    rw [ht] at hafter
    rw [opened?_of_typed? ht, hafter]
    exact List.sublist_append_right _ _
  | none =>
    rw [ht] at hafter
    cases ho : t.opened? with
    | some p =>
      rw [ho] at hafter
      rw [hafter, held_opened ho]
      exact List.Sublist.refl _
    | none =>
      rw [ho] at hafter
      rw [hafter]
      exact List.sublist_append_left _ _

theorem idle_still {t : Turn Host Host.Move} (h : t.Idle) :
    t.outcome.host = t.state ∧ t.requests = [] ∧ t.notices = [] ∧ t.calls = [] := by
  cases h with
  | blank submits blank =>
    obtain ⟨hhost, heffects⟩ := step_submits submits
    rw [Controller.send_blank blank] at hhost heffects
    refine ⟨hhost, ?_, ?_, ?_⟩
    · exact congrArg Controller.Effect.requests heffects
    · exact congrArg Controller.Effect.notices heffects
    · exact congrArg Controller.Effect.calls heffects
  | @key k move other =>
    obtain ⟨host, m⟩ := t
    obtain rfl : m = .key k := move
    have hk : Controller.isSubmitKey k = false := by simpa [Controller.isSubmitKey] using other
    have ho : host.step (.key k) = host.outcome _ .key :=
      congrArg (host.outcome · .key) (Controller.key_other hk host.chat)
    refine ⟨congrArg Host.Outcome.host ho, ?_, ?_, ?_⟩
    · exact congrArg (fun o : Host.Outcome => Controller.Effect.requests o.effects) ho
    · exact congrArg (fun o : Host.Outcome => Controller.Effect.notices o.effects) ho
    · exact congrArg (fun o : Host.Outcome => Controller.Effect.calls o.effects) ho

end Turn

/-! ## Runs -/

namespace Host.Run

variable (r : Run)

def typedAt (n : Nat) : Option String := (r.turns[n]?).bind Turn.typed?

def openedAt (n : Nat) : Option Pending := (r.turns[n]?).bind Turn.opened?

def submitsAt (n : Nat) : Bool := (r.turns[n]?).any Turn.submits

def field (n : Nat) : String := ((r.moves.take n).foldl next r.begin).chat.input

/-- Turn number `n` makes an exchange of what turn number `m` typed: nothing was typed after that. -/
structure Source (m n : Nat) : Prop where
  earlier : m < n
  typed : (r.typedAt m).isSome = true
  latest : ∀ k, m < k → k < n → r.typedAt k = none
  opens : (r.openedAt n).isSome = true

def texts : List String := Turn.held (r.turns.filterMap Turn.typed?)

/-- The inputs of the exchanges, in the order in which they are made. -/
def inputs : List String := r.turns.filterMap fun t => t.opened?.map Pending.input

/-- What is typed is sent once, and as it was typed. -/
structure Conserved : Prop where
  /-- Exchanges are numbered in the order in which they are made. -/
  numbered : r.opened = List.range' 1 r.opened.length
  inputs : r.inputs.Sublist r.texts
  /-- The input of an exchange is what was typed last. -/
  source : ∀ n p, r.openedAt n = some p → ∃ m, r.Source m n ∧ r.typedAt m = some p.input
  /-- Nothing that was typed is sent twice. -/
  once : ∀ m n n', r.Source m n → r.Source m n' → n = n'
  /-- A text that is not sent was replaced before any submission, or no submission followed it. -/
  unsent : ∀ m text, r.typedAt m = some text → Text.isBlankText text = false →
    ((∀ n, ¬ r.Source m n) ↔
      (∃ k, m < k ∧ (r.typedAt k).isSome = true ∧ ∀ j, m < j → j < k → r.submitsAt j = false) ∨
        ∀ j, m < j → r.submitsAt j = false)
  /-- Submitting blank text and pressing other keys changes nothing. -/
  idle : ∀ t ∈ r.turns, t.Idle → t.outcome.host = t.state ∧ t.requests = [] ∧ t.notices = [] ∧ t.calls = []

/-! ### The field along a run -/

theorem turns_getElem? (n : Nat) :
    r.turns[n]? = (r.moves[n]?).map fun m => ⟨(r.moves.take n).foldl next r.begin, m⟩ :=
  Turn.getElem?_list next r.begin r.moves n

theorem field_before {n : Nat} {t : Turn Host Move} (h : r.turns[n]? = some t) : t.before.input = r.field n := by
  rw [turns_getElem?] at h
  obtain ⟨m, -, rfl⟩ := Option.map_eq_some_iff.mp h
  rfl

theorem field_succ (n : Nat) : r.field (n + 1) =
    match r.typedAt n with
    | some text => text
    | none => if (r.openedAt n).isSome then "" else r.field n := by
  cases h : r.moves[n]? with
  | none =>
    have ht : r.turns[n]? = none := by rw [turns_getElem?, h]; rfl
    have hl : r.moves.length ≤ n := List.getElem?_eq_none_iff.mp h
    have hfield : r.field (n + 1) = r.field n := by
      unfold field
      rw [List.take_of_length_le hl, List.take_of_length_le (by omega)]
    simp [typedAt, openedAt, ht, hfield]
  | some m =>
    have ht : r.turns[n]? = some ⟨(r.moves.take n).foldl next r.begin, m⟩ := by rw [turns_getElem?, h]; rfl
    have hfield : r.field (n + 1) = (Turn.after ⟨(r.moves.take n).foldl next r.begin, m⟩).input := by
      unfold field
      rw [List.take_add_one, h, List.foldl_append]
      rfl
    rw [hfield, Turn.input_after, typedAt, openedAt, ht]
    rfl

theorem openedAt_isSome (n : Nat) :
    (r.openedAt n).isSome = (r.submitsAt n && !Text.isBlankText (r.field n)) := by
  unfold openedAt submitsAt
  cases h : r.turns[n]? with
  | none => rfl
  | some t =>
    rw [← r.field_before h]
    exact t.opened?_isSome

theorem openedAt_eq_some {n : Nat} {p : Pending} (h : r.openedAt n = some p) : p.input = r.field n := by
  obtain ⟨t, ht, hp⟩ := Option.bind_eq_some_iff.mp h
  rw [← r.field_before ht]
  exact Turn.opened?_eq_some hp

theorem typedAt_of_submitsAt {n : Nat} (h : r.submitsAt n = true) : r.typedAt n = none := by
  unfold submitsAt at h
  unfold typedAt
  cases ht : r.turns[n]? with
  | none => rfl
  | some t =>
    rw [ht] at h
    exact Turn.typed?_of_submits t h

/-- An exchange is made by a submission, of a text that is not blank. -/
theorem of_openedAt {n : Nat} (h : (r.openedAt n).isSome = true) :
    r.submitsAt n = true ∧ Text.isBlankText (r.field n) = false := by
  simpa [openedAt_isSome] using h

theorem field_kept {m n : Nat} (hmn : m ≤ n)
    (h : ∀ k, m ≤ k → k < n → r.typedAt k = none ∧ (r.openedAt k).isSome = false) : r.field n = r.field m := by
  induction n, hmn using Nat.le_induction with
  | base => rfl
  | succ n hmn ih =>
    obtain ⟨ht, ho⟩ := h n hmn (by omega)
    rw [field_succ, ht]
    simp only [ho, Bool.false_eq_true, if_false]
    exact ih fun k hk hkn => h k hk (by omega)

theorem field_empty {m n : Nat} (hmn : m ≤ n) (hm : r.field m = "") (h : ∀ k, m ≤ k → k < n → r.typedAt k = none) :
    r.field n = "" := by
  induction n, hmn using Nat.le_induction with
  | base => exact hm
  | succ n hmn ih =>
    rw [field_succ, h n hmn (by omega)]
    simp [ih fun k hk hkn => h k hk (by omega)]

/-- What is in the field was typed, and nothing was typed after that. -/
theorem field_source (n : Nat) :
    r.field n = "" ∨ ∃ m < n, r.typedAt m = some (r.field n) ∧ ∀ k, m < k → k < n → r.typedAt k = none := by
  induction n with
  | zero => exact .inl rfl
  | succ n ih =>
    rw [field_succ]
    cases ht : r.typedAt n with
    | some text => exact .inr ⟨n, by omega, ht, fun k hk hkn => absurd hk (by omega)⟩
    | none =>
      cases ho : (r.openedAt n).isSome with
      | true => exact .inl rfl
      | false =>
        rcases ih with ih | ⟨m, hm, htyped, hlatest⟩
        · exact .inl ih
        · refine .inr ⟨m, by omega, htyped, fun k hk hkn => ?_⟩
          by_cases hkn' : k = n
          · rw [hkn', ht]
          · exact hlatest k hk (by omega)

/-- After a submission the field is blank, until something is typed. -/
theorem Source.blank {r : Run} {m n n' : Nat} (h : r.Source m n) (h' : r.Source m n') (hlt : n < n') :
    Text.isBlankText (r.field n') = true := by
  have hm := h.earlier
  have hcleared : r.field (n + 1) = "" := by
    rw [field_succ, h'.latest n hm hlt]
    simp [h.opens]
  have hfield : r.field n' = "" :=
    r.field_empty (by omega) hcleared fun k hk hkn => h'.latest k (by omega) hkn
  rw [hfield]
  rfl

theorem source_once {m n n' : Nat} (h : r.Source m n) (h' : r.Source m n') : n = n' := by
  have hn := (r.of_openedAt h.opens).2
  have hn' := (r.of_openedAt h'.opens).2
  rcases Nat.lt_trichotomy n n' with hlt | heq | hgt
  · rw [h.blank h' hlt] at hn'
    exact nomatch hn'
  · exact heq
  · rw [h'.blank h hgt] at hn
    exact nomatch hn

theorem source_of_openedAt {n : Nat} {p : Pending} (h : r.openedAt n = some p) :
    ∃ m, r.Source m n ∧ r.typedAt m = some p.input := by
  have hopens : (r.openedAt n).isSome = true := by simp [h]
  rw [r.openedAt_eq_some h]
  rcases r.field_source n with hempty | ⟨m, hm, htyped, hlatest⟩
  · have hblank := (r.of_openedAt hopens).2
    rw [hempty] at hblank
    exact nomatch hblank
  · exact ⟨m, ⟨hm, by simp [htyped], hlatest, hopens⟩, htyped⟩

/-- The first submission after a text was typed sends it, unless another text was typed before. -/
theorem source_of_submitsAt {m j : Nat} {text : String} (htyped : r.typedAt m = some text)
    (hblank : Text.isBlankText text = false) (hmj : m < j) (hj : r.submitsAt j = true)
    (hnone : ∀ k, m < k → k < j → r.typedAt k = none) (hfirst : ∀ k, m < k → k < j → r.submitsAt k = false) :
    r.Source m j := by
  have hstart : r.field (m + 1) = text := by rw [field_succ, htyped]
  have hfield : r.field j = text := by
    rw [← hstart]
    refine r.field_kept (by omega) fun k hk hkj => ⟨hnone k (by omega) hkj, ?_⟩
    rw [openedAt_isSome, hfirst k (by omega) hkj]
    rfl
  refine ⟨hmj, by simp [htyped], hnone, ?_⟩
  rw [openedAt_isSome, hj, hfield, hblank]
  rfl

theorem not_source_iff {m : Nat} {text : String} (htyped : r.typedAt m = some text)
    (hblank : Text.isBlankText text = false) :
    (∀ n, ¬ r.Source m n) ↔
      (∃ k, m < k ∧ (r.typedAt k).isSome = true ∧ ∀ j, m < j → j < k → r.submitsAt j = false) ∨
        ∀ j, m < j → r.submitsAt j = false := by
  constructor
  · intro h
    by_cases hsubmits : ∃ j, m < j ∧ r.submitsAt j = true
    · -- the first submission would send the text, had nothing been typed before it
      left
      classical
      let j := Nat.find hsubmits
      obtain ⟨hmj, hj⟩ : m < j ∧ r.submitsAt j = true := Nat.find_spec hsubmits
      have hfirst : ∀ k, m < k → k < j → r.submitsAt k = false := by
        intro k hk hkj
        by_contra hs
        exact Nat.find_min hsubmits hkj ⟨hk, by simpa using hs⟩
      by_contra hnone
      push Not at hnone
      refine h j (r.source_of_submitsAt htyped hblank hmj hj (fun k hk hkj => ?_) hfirst)
      by_contra hk'
      obtain ⟨i, hi, hik, hs⟩ := hnone k hk (Option.isSome_iff_ne_none.mpr hk')
      exact hs (hfirst i hi (by omega))
    · right
      intro j hj
      by_contra hs
      exact hsubmits ⟨j, hj, by simpa using hs⟩
  · intro h n hn
    have hs := (r.of_openedAt hn.opens).1
    have hmn := hn.earlier
    rcases h with ⟨k, hmk, hk, hbefore⟩ | hnever
    · rcases Nat.lt_trichotomy k n with hlt | rfl | hgt
      · simp [hn.latest k hmk hlt] at hk
      · simp [r.typedAt_of_submitsAt hs] at hk
      · simp [hbefore n hmn hgt] at hs
    · simp [hnever n hmn] at hs

/-! ### Inputs and texts -/

/-- The inputs of the exchanges, and after them what is in the field, were typed in this order. -/
theorem inputs_held_sublist : (r.inputs ++ Turn.held [r.chat.input]).Sublist r.texts := by
  refine Turn.run_induction next (P := fun ts h =>
    ((ts.filterMap fun t => t.opened?.map Pending.input) ++ Turn.held [h.chat.input]).Sublist
      (Turn.held (ts.filterMap Turn.typed?))) ?_ ?_ r.moves
  · exact List.nil_sublist _
  · intro ts t ih
    have hinputs : ([t].filterMap fun t => t.opened?.map Pending.input) = (t.opened?.map Pending.input).toList := by
      simp [List.filterMap_eq_flatMap_toList]
    have htyped : [t].filterMap Turn.typed? = t.typed?.toList := by simp [List.filterMap_eq_flatMap_toList]
    rw [List.filterMap_append, List.filterMap_append, hinputs, htyped, Turn.held_append, List.append_assoc]
    refine (List.Sublist.append_left t.held_after _).trans ?_
    rw [← List.append_assoc]
    exact List.Sublist.append_right ih _

theorem conserved : r.Conserved where
  numbered := by rw [r.opened_eq, List.length_range']
  inputs := (List.sublist_append_left _ _).trans r.inputs_held_sublist
  source n p h := r.source_of_openedAt h
  once m n n' h h' := r.source_once h h'
  unsent m text ht hb := r.not_source_iff ht hb
  idle t _ h := Turn.idle_still h

end Host.Run

end Parley

import Mathlib.Data.List.Forall2
import Mathlib.Data.List.Induction

/-!
# Runs of a step function

A run is a state and the moves made from it on, one after another.

* `Turn` : a move and the state it is made in;
* `Turn.list step s ms` : the turns of a run; `list_append`, `list_split`, `getElem?_list`;
* `Turn.run_induction` : what holds at the start and is preserved by every turn holds of every run;
* `Turn.states`, `Turn.lockstep` : two runs side by side.
-/

namespace Parley

structure Turn (σ ι : Type) where
  state : σ
  move : ι

namespace Turn

section
variable {σ ι : Type} (step : σ → ι → σ)

/-- The turns of a run, in order; the state after it is `ms.foldl step s`. -/
def list (s : σ) : List ι → List (Turn σ ι)
  | [] => []
  | m :: ms => ⟨s, m⟩ :: list (step s m) ms

theorem list_append (s : σ) (ms ms' : List ι) :
    list step s (ms ++ ms') = list step s ms ++ list step (ms.foldl step s) ms' := by
  induction ms generalizing s with
  | nil => rfl
  | cons m ms ih => exact congrArg (_ :: ·) (ih (step s m))

/-- The first turns of a run are a run, and so are those after them. -/
theorem list_split {s : σ} {ms : List ι} {ts us : List (Turn σ ι)} (h : list step s ms = ts ++ us) :
    ∃ ms₁ ms₂, ms = ms₁ ++ ms₂ ∧ ts = list step s ms₁ ∧ us = list step (ms₁.foldl step s) ms₂ := by
  induction ts generalizing s ms with
  | nil => exact ⟨[], ms, rfl, rfl, h.symm⟩
  | cons t ts ih =>
    cases ms with
    | nil => exact nomatch h
    | cons m ms =>
      obtain ⟨rfl, htail⟩ := List.cons.inj h
      obtain ⟨ms₁, ms₂, rfl, rfl, hu⟩ := ih htail
      exact ⟨m :: ms₁, ms₂, rfl, rfl, hu⟩

theorem list_at {s : σ} {ms : List ι} {ts us : List (Turn σ ι)} {t : Turn σ ι} (h : list step s ms = ts ++ t :: us) :
    ∃ ms₁ ms₂, ts = list step s ms₁ ∧ t.state = ms₁.foldl step s ∧ us = list step (step t.state t.move) ms₂ := by
  obtain ⟨ms₁, ms₂, -, ht, hu⟩ := list_split step h
  cases ms₂ with
  | nil => exact nomatch hu
  | cons m ms₂ =>
    obtain ⟨rfl, rfl⟩ := List.cons.inj hu
    exact ⟨ms₁, ms₂, ht, rfl, rfl⟩

theorem getElem?_list (s : σ) (ms : List ι) (n : Nat) :
    (list step s ms)[n]? = (ms[n]?).map fun m => ⟨(ms.take n).foldl step s, m⟩ := by
  induction ms generalizing s n with
  | nil => simp [list]
  | cons m ms ih =>
    cases n with
    | zero => simp [list]
    | succ n => simp [list, ih]

/-- What holds at the start and is preserved by every turn holds of every run. -/
theorem run_induction {P : List (Turn σ ι) → σ → Prop} {s : σ} (start : P [] s)
    (turn : ∀ ts (t : Turn σ ι), P ts t.state → P (ts ++ [t]) (step t.state t.move)) (ms : List ι) :
    P (list step s ms) (ms.foldl step s) := by
  induction ms using List.reverseRecOn with
  | nil => exact start
  | append_singleton ms m ih =>
    rw [list_append, List.foldl_append]
    exact turn _ ⟨ms.foldl step s, m⟩ ih

def states (s : σ) (ms : List ι) : List σ := (list step s ms).map Turn.state ++ [ms.foldl step s]

theorem forall₂_list {A : ι → ι → Prop} {ms ms' : List ι} (h : List.Forall₂ A ms ms') (s s' : σ) :
    List.Forall₂ (fun t t' => A t.move t'.move) (list step s ms) (list step s' ms') := by
  induction h generalizing s s' with
  | nil => exact .nil
  | cons hm _ ih => exact .cons hm (ih (step s _) (step s' _))

/-- What two states have in common at the start, and keep in every pair of turns, they have throughout. -/
theorem lockstep {R : σ → σ → Prop} {A Q : Turn σ ι → Turn σ ι → Prop}
    (turn : ∀ t t', R t.state t'.state → A t t' → Q t t' ∧ R (step t.state t.move) (step t'.state t'.move))
    {s s' : σ} (start : R s s') {ms ms' : List ι} (h : List.Forall₂ A (list step s ms) (list step s' ms')) :
    List.Forall₂ Q (list step s ms) (list step s' ms') ∧
      List.Forall₂ R (states step s ms) (states step s' ms') := by
  induction ms generalizing s s' ms' with
  | nil =>
    cases ms' with
    | nil => exact ⟨.nil, .cons start .nil⟩
    | cons m' ms' => exact nomatch h
  | cons m ms ih =>
    cases ms' with
    | nil => exact nomatch h
    | cons m' ms' =>
      obtain ⟨ha, hrest⟩ := List.forall₂_cons.mp h
      obtain ⟨hq, hnext⟩ := turn ⟨s, m⟩ ⟨s', m'⟩ start ha
      obtain ⟨hqs, hstates⟩ := ih hnext hrest
      exact ⟨.cons hq hqs, .cons start hstates⟩

/-- What the states of two runs have in common they have in common in the end. -/
theorem finish_of_states {R : σ → σ → Prop} {s s' : σ} {ms ms' : List ι}
    (h : List.Forall₂ R (states step s ms) (states step s' ms')) : R (ms.foldl step s) (ms'.foldl step s') := by
  have hreverse := List.forall₂_reverse_iff.mpr h
  rw [states, states, List.reverse_concat, List.reverse_concat] at hreverse
  exact (List.forall₂_cons.mp hreverse).1

end

/-- What agrees in every pair of two lists agrees in the lists. -/
theorem map_eq_of_forall₂ {α β : Type} {R : α → α → Prop} {f : α → β} (hf : ∀ a b, R a b → f b = f a)
    {l l' : List α} (h : List.Forall₂ R l l') : l'.map f = l.map f := by
  induction h with
  | nil => rfl
  | cons hab _ ih => rw [List.map_cons, List.map_cons, hf _ _ hab, ih]

theorem filterMap_eq_of_forall₂ {α β : Type} {R : α → α → Prop} {f : α → Option β}
    (hf : ∀ a b, R a b → f b = f a) {l l' : List α} (h : List.Forall₂ R l l') : l'.filterMap f = l.filterMap f := by
  have hid : ∀ l : List α, l.filterMap f = (l.map f).filterMap id := fun l => by
    rw [List.filterMap_map]
    rfl
  rw [hid, hid, map_eq_of_forall₂ hf h]

end Turn

end Parley

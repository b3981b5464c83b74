import Mathlib.Data.List.Induction
import Parley.Proofs.Exchange.Tracker

/-!
# A tracker tells its history

* `Act`, `Act.step` : what is done with a tracker, in any order and with any ids;
* `begun`, `firstOutcome?`, `recorded?` : how many exchanges were begun, which outcome came first after an exchange was
  begun, and the state that follows for it. None of them looks at a tracker;
* `recorded?_start`, `recorded?_settle` : what one more act adds;
* `Tells`, `Tells.step` : a tracker in step with its history stays so;
* `Refines`, `history_refined` : what a tracker tells, and what it answers next, by its history.
-/

namespace Parley.Exchange

inductive Act
  | start
  | settle (id : Id) (outcome : Outcome)
  deriving DecidableEq, Repr

namespace Act

def step (t : Tracker) : Act → Tracker
  | start => t.start.2
  | settle id outcome => (t.apply id outcome).2

def isStart : Act → Bool
  | start => true
  | settle .. => false

def outcome? (i : Id) : Act → Option Outcome
  | start => none
  | settle id outcome => if id = i then some outcome else none

end Act

variable {acts : List Act} {t : Tracker} {i : Nat}

/-! ## The history -/

def begun (acts : List Act) : Nat := acts.countP Act.isStart

/-- What was done after the `i`th exchange was begun; nothing if it was not. -/
def since : Nat → List Act → List Act
  | 0, acts => acts
  | _ + 1, [] => []
  | i + 1, .start :: acts => since i acts
  | i + 1, .settle .. :: acts => since (i + 1) acts

/-- The outcome that was reported first of an exchange that had been begun. -/
def firstOutcome? (acts : List Act) (i : Nat) : Option Outcome := (since i acts).findSome? (Act.outcome? i)

def recorded? (acts : List Act) (i : Nat) : Option State :=
  if 1 ≤ i ∧ i ≤ begun acts then some ((firstOutcome? acts i).elim .awaiting Outcome.state) else none

theorem begun_start (acts : List Act) : begun (acts ++ [.start]) = begun acts + 1 :=
  List.countP_append

theorem begun_settle (acts : List Act) (j : Id) (outcome : Outcome) :
    begun (acts ++ [.settle j outcome]) = begun acts :=
  List.countP_append

/-- One more act comes after the start of every exchange that was begun before it. -/
theorem since_concat (i : Nat) (acts : List Act) (a : Act) :
    since i (acts ++ [a]) = if i ≤ begun acts then since i acts ++ [a] else [] := by
  induction acts generalizing i with
  | nil =>
    cases i with
    | zero => rfl
    | succ i => cases a <;> cases i <;> rfl
  | cons b acts ih =>
    cases i with
    | zero => rfl
    | succ i =>
      cases b with
      | start =>
        have hbegun : begun (.start :: acts) = begun acts + 1 := List.countP_cons_of_pos rfl
        simp only [List.cons_append, since, ih i, hbegun, Nat.succ_le_succ_iff]
      | settle j outcome =>
        have hbegun : begun (.settle j outcome :: acts) = begun acts := List.countP_cons_of_neg Bool.false_ne_true
        simp only [List.cons_append, since, ih (i + 1), hbegun]

theorem firstOutcome?_concat (hi : i ≤ begun acts) (a : Act) :
    firstOutcome? (acts ++ [a]) i = (firstOutcome? acts i).or (a.outcome? i) := by
  have hone : List.findSome? (Act.outcome? i) [a] = a.outcome? i := by
    cases h : a.outcome? i <;> simp [h]
  rw [firstOutcome?, since_concat, if_pos hi, List.findSome?_append, hone]
  rfl

theorem firstOutcome?_of_lt (hi : begun acts < i) (a : Act) : firstOutcome? (acts ++ [a]) i = none := by
  rw [firstOutcome?, since_concat, if_neg (by omega)]
  rfl

theorem recorded?_start (acts : List Act) (i : Nat) :
    recorded? (acts ++ [.start]) i = if i = begun acts + 1 then some .awaiting else recorded? acts i := by
  unfold recorded?
  rw [begun_start]
  by_cases hi : i = begun acts + 1
  · rw [if_pos hi, if_pos (by omega), firstOutcome?_of_lt (by omega)]
    rfl
  · rw [if_neg hi]
    by_cases hle : i ≤ begun acts
    · rw [firstOutcome?_concat hle, Act.outcome?, Option.or_none]
      simp only [hle, Nat.le_succ_of_le hle]
    · rw [if_neg (by omega), if_neg (by omega)]

/-- An outcome counts for its exchange alone, and only while that awaits its response. -/
theorem recorded?_settle (acts : List Act) (j : Id) (outcome : Outcome) (i : Nat) :
    recorded? (acts ++ [.settle j outcome]) i =
      if i = j ∧ recorded? acts j = some .awaiting then some outcome.state else recorded? acts i := by
  unfold recorded?
  rw [begun_settle]
  by_cases hi : 1 ≤ i ∧ i ≤ begun acts
  · rw [if_pos hi, if_pos hi, firstOutcome?_concat hi.2]
    by_cases hj : j = i
    · subst hj
      rw [if_pos hi]
      cases hfirst : firstOutcome? acts j with
      | none => simp [Act.outcome?]
      | some first => cases first <;> simp [Outcome.state]
    · have hne : ¬ i = j := fun h => hj h.symm
      simp [Act.outcome?, hj, hne]
  · rw [if_neg hi, if_neg hi, if_neg]
    rintro ⟨rfl, h⟩
    rw [if_neg hi] at h
    exact nomatch h

theorem recorded?_eq_none : recorded? acts i = none ↔ i = 0 ∨ begun acts < i := by
  unfold recorded?
  split
  · next h => simp only [reduceCtorEq, false_iff]; omega
  · next h => simp only [true_iff]; omega

theorem recorded?_of_firstOutcome? {first : Outcome} (one_le : 1 ≤ i) (le : i ≤ begun acts)
    (h : firstOutcome? acts i = some first) : recorded? acts i = some first.state := by
  rw [recorded?, if_pos ⟨one_le, le⟩, h]
  rfl

/-! ## One act -/

namespace Tracker

theorem apply_unknown (h : t.state? i = none) (outcome : Outcome) :
    t.apply i outcome = (.error (.unknown i), t) := by
  rw [apply, settle, h]

theorem apply_awaiting (h : t.state? i = some .awaiting) (outcome : Outcome) :
    t.apply i outcome = (.ok outcome.state, t.settled i outcome) := by
  rw [apply, settle_awaiting h]

theorem apply_settled {first : Outcome} (h : t.state? i = some first.state) (outcome : Outcome) :
    t.apply i outcome = (.error (.alreadySettled i first.state), t) := by
  rw [apply, settle, h]
  dsimp only
  rw [if_pos (Outcome.isSettled_state first)]

end Tracker

theorem State.eq_awaiting_or (s : State) : s = .awaiting ∨ ∃ first : Outcome, s = first.state := by
  cases s with
  | awaiting => exact .inl rfl
  | delivered => exact .inr ⟨.delivered, rfl⟩
  | failed message => exact .inr ⟨.failed message, rfl⟩

/-- A tracker is in step with what was done. -/
structure Tells (acts : List Act) (t : Tracker) : Prop where
  numbered : t.Numbered
  balanced : t.Balanced
  started : t.started = begun acts
  recorded : ∀ i, t.state? i = recorded? acts i

theorem tells_new : Tells [] {} where
  numbered := Tracker.numbered_new
  balanced := Tracker.balanced_new
  started := rfl
  recorded i := (if_neg (by simp [begun]; omega)).symm

theorem Tells.start (h : Tells acts t) : Tells (acts ++ [.start]) t.start.2 where
  numbered := h.numbered.start
  balanced := h.balanced.start
  started := by
    rw [begun_start, ← h.started]
    rfl
  recorded i := by rw [Tracker.state?_start h.numbered, recorded?_start, h.started, h.recorded]

/-- An outcome changes the tracker if its exchange awaits it, and nothing otherwise. -/
theorem Tells.settle (h : Tells acts t) (j : Id) (outcome : Outcome) :
    Tells (acts ++ [.settle j outcome]) (t.apply j outcome).2 := by
  -- a tracker that stays as it is stays in step, since the outcome is not the first of an exchange that was begun
  have hunchanged : t.state? j ≠ some .awaiting → Tells (acts ++ [.settle j outcome]) t := by
    intro hj
    rw [h.recorded] at hj
    refine ⟨h.numbered, h.balanced, by rw [begun_settle, h.started], fun i => ?_⟩
    rw [recorded?_settle, if_neg fun hi => hj hi.2, h.recorded]
  cases hj : t.state? j with
  | none =>
    rw [Tracker.apply_unknown hj]
    exact hunchanged (by simp [hj])
  | some s =>
    obtain rfl | ⟨first, rfl⟩ := s.eq_awaiting_or
    · rw [Tracker.apply_awaiting hj]
      refine ⟨h.numbered.settled j outcome, h.balanced.settled h.numbered hj outcome, ?_, fun i => ?_⟩
      · rw [begun_settle, ← h.started]
        rfl
      · have hrecorded : recorded? acts j = some .awaiting := (h.recorded j).symm.trans hj
        rw [Tracker.state?_settled hj, recorded?_settle, h.recorded]
        simp only [hrecorded, and_true]
    · rw [Tracker.apply_settled hj]
      refine hunchanged ?_
      rw [hj]
      cases first <;> exact nofun

theorem Tells.step (h : Tells acts t) (a : Act) : Tells (acts ++ [a]) (a.step t) := by
  cases a with
  | start => exact h.start
  | settle j outcome => exact h.settle j outcome

/-- Whatever is done, the tracker stays in step. -/
theorem tells_foldl (acts : List Act) : Tells acts (acts.foldl Act.step {}) := by
  induction acts using List.reverseRecOn with
  | nil => exact tells_new
  | append_singleton acts a ih =>
    rw [List.foldl_append]
    exact ih.step a

/-! ## What is told -/

theorem Tells.inFlight (h : Tells acts t) :
    t.inFlight = (List.range' 1 (begun acts)).countP fun i => t.state? i = some .awaiting := by
  have hbalanced : t.inFlight = t.count fun s => !s.isSettled := h.balanced
  rw [hbalanced, h.numbered.count_eq, h.started]
  simp only [any_not_isSettled]

/-- While an exchange awaits its response the counter is above zero. -/
theorem Tells.inFlight_pos (h : Tells acts t) (hi : t.state? i = some .awaiting) : 0 < t.inFlight := by
  have hknown := (h.numbered.isSome_state? i).mp (by rw [hi]; rfl)
  rw [h.inFlight, List.countP_pos_iff]
  refine ⟨i, List.mem_range'_1.mpr ?_, decide_eq_true hi⟩
  rw [← h.started]
  omega

/-- What a tracker tells, and what it answers next, when `acts` is all that was done with it. -/
structure Refines (acts : List Act) (t : Tracker) : Prop where
  /-- Ids are given out in order. -/
  next : t.start.1 = begun acts + 1
  /-- The exchanges with a state are those that were begun; the first outcome is their state, if there was one. -/
  untracked : ∀ i, t.state? i = none ↔ i = 0 ∨ begun acts < i
  tracked : ∀ i, 1 ≤ i → i ≤ begun acts →
    t.state? i = some ((firstOutcome? acts i).elim .awaiting Outcome.state)
  /-- The answer is the new state, no other exchange is touched, and the counter is above zero when it is lowered. -/
  accepted : ∀ i outcome, t.state? i = some .awaiting → ∃ t', t.apply i outcome = (.ok outcome.state, t') ∧
    (∀ j, t'.state? j = if j = i then some outcome.state else t.state? j) ∧ t'.inFlight + 1 = t.inFlight
  unknown : ∀ i outcome, i = 0 ∨ begun acts < i → t.apply i outcome = (.error (.unknown i), t)
  /-- The first outcome stands, and is told to whoever reports another. -/
  stands : ∀ i outcome first, 1 ≤ i → i ≤ begun acts → firstOutcome? acts i = some first →
    t.apply i outcome = (.error (.alreadySettled i first.state), t)
  inFlight : t.inFlight = (List.range' 1 (begun acts)).countP fun i => t.state? i = some .awaiting
  idle : t.isIdle = true ↔ ∀ i, t.state? i ≠ some .awaiting

/-- Whatever is done with a new tracker, it tells its history. -/
theorem history_refined (acts : List Act) : Refines acts (acts.foldl Act.step {}) := by
  have h := tells_foldl acts
  generalize acts.foldl Act.step {} = t at h
  have huntracked : ∀ i, t.state? i = none ↔ i = 0 ∨ begun acts < i := fun i => by
    rw [h.recorded, recorded?_eq_none]
  refine ⟨congrArg (· + 1) h.started, huntracked, ?tracked, ?accepted, ?unknown, ?stands, h.inFlight, ?idle⟩
  case tracked =>
    intro i one_le le
    rw [h.recorded, recorded?, if_pos ⟨one_le, le⟩]
  case accepted =>
    intro i outcome hi
    refine ⟨_, Tracker.apply_awaiting hi outcome, Tracker.state?_settled hi outcome, ?_⟩
    exact Nat.sub_add_cancel (h.inFlight_pos hi)
  case unknown => exact fun i outcome hi => Tracker.apply_unknown ((huntracked i).mpr hi) outcome
  case stands =>
    intro i outcome first one_le le hfirst
    exact Tracker.apply_settled ((h.recorded i).trans (recorded?_of_firstOutcome? one_le le hfirst)) outcome
  case idle =>
    constructor
    · intro hidle i hi
      exact Nat.ne_of_gt (h.inFlight_pos hi) (beq_iff_eq.mp hidle)
    · intro hnone
      have hzero : t.inFlight = 0 := by
        rw [h.inFlight, List.countP_eq_zero]
        exact fun i _ hi => hnone i (of_decide_eq_true hi)
      exact beq_iff_eq.mpr hzero

end Parley.Exchange

import Parley.Exchange.Tracker

/-!
# The book a tracker keeps

* `Tracker.Numbered t` : the ids on record are `1, 2, …` in order, up to the last one given out;
* `state?_start`, `state?_replace` : what `start` and a recorded outcome do to the states;
* `Tracker.count p t` : how many exchanges are in a state of kind `p`; `Numbered.count_eq`, `count_start`,
  `count_replace`;
* `Tracker.Balanced t` : the counter of exchanges in flight is the number of those that await a response;
* `settle_awaiting` : the outcome of an exchange that awaits its response is never rejected.
-/

namespace Parley.Exchange

def State.isFailed : State → Bool
  | .failed _ => true
  | _ => false

theorem any_not_isSettled (s : Option State) : (s.any fun s => !s.isSettled) = decide (s = some .awaiting) := by
  cases s with
  | none => rfl
  | some s => cases s <;> rfl

namespace Tracker

/-! ## Ids -/

/-- The ids on record are those from 1 to the last one given out, in order. -/
def Numbered (t : Tracker) : Prop := t.states.map Prod.fst = List.range' 1 t.started

theorem numbered_new : Numbered {} := rfl

theorem Numbered.nodup {t : Tracker} (h : t.Numbered) : (t.states.map Prod.fst).Nodup := by
  rw [h]
  exact List.nodup_range'

/-- The exchanges on record are those whose ids were given out. -/
theorem Numbered.isSome_state? {t : Tracker} (h : t.Numbered) (i : Nat) :
    (t.state? i).isSome ↔ 1 ≤ i ∧ i ≤ t.started := by
  have hm : i ∈ t.states.map Prod.fst ↔ 1 ≤ i ∧ i ≤ t.started := by
    rw [h, List.mem_range'_1]
    omega
  rw [← hm, state?, List.lookup_isSome_iff]
  simp only [List.mem_map, beq_iff_eq]
  exact ⟨fun ⟨e, he, hi⟩ => ⟨e, he, hi.symm⟩, fun ⟨e, he, hi⟩ => ⟨e, he, hi.symm⟩⟩

theorem Numbered.state?_next {t : Tracker} (h : t.Numbered) : t.state? (t.started + 1) = none := by
  rw [← Option.not_isSome_iff_eq_none, h.isSome_state?]
  omega

theorem Numbered.start {t : Tracker} (h : t.Numbered) : t.start.2.Numbered := by
  have hr : List.range' 1 (t.started + 1) = List.range' 1 t.started ++ [t.started + 1] := by
    rw [List.range'_1_concat, Nat.add_comm 1]
  unfold Numbered at h
  simp only [Numbered, Tracker.start, List.map_append, List.map_cons, List.map_nil, h, hr]

theorem map_fst_replace (i : Id) (s : State) (states : List (Id × State)) :
    (replace i s states).map Prod.fst = states.map Prod.fst := by
  rw [replace, List.map_map]
  refine List.map_congr_left fun e _ => ?_
  show (if e.1 = i then (i, s) else e).1 = e.1
  split
  · next h => exact h.symm
  · rfl

/-! ## States -/

theorem state?_start {t : Tracker} (h : t.Numbered) (i : Id) :
    t.start.2.state? i = if i = t.started + 1 then some .awaiting else t.state? i := by
  unfold state? Tracker.start
  rw [List.lookup_append]
  split
  · next hi =>
    subst hi
    have hn := h.state?_next
    rw [state?] at hn
    rw [hn]
    simp
  · next hi =>
    have hb : (i == t.started + 1) = false := by simpa using hi
    simp [List.lookup_cons, hb]

theorem lookup_replace (i j : Id) (s : State) (states : List (Id × State)) :
    (replace i s states).lookup j =
      if j = i then (states.lookup i).map (fun _ => s) else states.lookup j := by
  induction states with
  | nil => simp [replace]
  | cons e states ih =>
    obtain ⟨k, s₀⟩ := e
    rw [replace] at ih
    rw [replace, List.map_cons]
    by_cases hk : k = i
    · subst hk
      by_cases hj : j = k
      · subst hj
        simp
      · have hb : (j == k) = false := by simpa using hj
        rw [if_neg hj] at ih
        simp only [if_true, List.lookup_cons, hb, ih, if_neg hj]
    · rw [if_neg hk, List.lookup_cons]
      have hi : (i == k) = false := by simpa using fun e => hk e.symm
      by_cases hj : j = k
      · subst hj
        simp [hk]
      · have hb : (j == k) = false := by simpa using hj
        simp only [List.lookup_cons, hb, hi, ih]

/-- Recording a state for an exchange on record changes the state of this one exchange. -/
theorem state?_replace {t : Tracker} {i : Id} {s₀ : State} (h : t.state? i = some s₀) (s : State) (n j : Nat) :
    ({ t with inFlight := n, states := replace i s t.states } : Tracker).state? j =
      if j = i then some s else t.state? j := by
  rw [state?] at h
  show (replace i s t.states).lookup j = _
  rw [lookup_replace, h]
  rfl

/-! ## Counting -/

/-- How many exchanges are in a state of kind `p`. -/
def count (p : State → Bool) (t : Tracker) : Nat := t.states.countP fun e => p e.2

theorem count_start (p : State → Bool) (t : Tracker) :
    t.start.2.count p = t.count p + if p .awaiting then 1 else 0 := by
  simp [count, Tracker.start, List.countP_append, List.countP_cons]

theorem countP_replace (p : State → Bool) {i : Id} {s₀ : State} (s : State) {states : List (Id × State)}
    (hn : (states.map Prod.fst).Nodup) (h : states.lookup i = some s₀) :
    ((replace i s states).countP fun e => p e.2) + (if p s₀ then 1 else 0) =
      (states.countP fun e => p e.2) + if p s then 1 else 0 := by
  induction states with
  | nil => simp at h
  | cons e states ih =>
    obtain ⟨k, s₁⟩ := e
    rw [List.map_cons, List.nodup_cons] at hn
    rw [replace] at ih
    rw [replace, List.map_cons, List.countP_cons, List.countP_cons]
    rw [List.lookup_cons] at h
    by_cases hk : k = i
    · subst hk
      have hrest : (states.map fun e => if e.1 = k then (k, s) else e) = states := by
        refine (List.map_congr_left fun e he => ?_).trans (List.map_id states)
        exact if_neg fun hek => hn.1 (List.mem_map.mpr ⟨e, he, hek⟩)
      have hs : s₁ = s₀ := by simpa using h
      rw [hrest, if_pos rfl, hs]
      dsimp only
      omega
    · have hb : (i == k) = false := by simpa using fun e => hk e.symm
      rw [hb] at h
      have hrest := ih hn.2 h
      rw [if_neg hk]
      dsimp only
      omega

theorem count_replace (p : State → Bool) {t : Tracker} (hn : t.Numbered) {i : Id} {s₀ : State}
    (h : t.state? i = some s₀) (s : State) (n : Nat) :
    ({ t with inFlight := n, states := replace i s t.states } : Tracker).count p + (if p s₀ then 1 else 0) =
      t.count p + if p s then 1 else 0 :=
  countP_replace p s hn.nodup h

theorem lookup_of_mem {states : List (Id × State)} (hn : (states.map Prod.fst).Nodup) {e : Id × State}
    (he : e ∈ states) : states.lookup e.1 = some e.2 := by
  induction states with
  | nil => exact (List.not_mem_nil he).elim
  | cons e₀ states ih =>
    rw [List.map_cons, List.nodup_cons] at hn
    rw [List.lookup_cons]
    rcases List.mem_cons.mp he with rfl | he
    · rw [beq_self_eq_true]
    · have hne : (e.1 == e₀.1) = false := by
        rw [beq_eq_false_iff_ne]
        exact fun h => hn.1 (h ▸ List.mem_map_of_mem he)
      rw [hne]
      exact ih hn.2 he

/-- Counting the states is counting the exchanges on record by their states. -/
theorem Numbered.count_eq {t : Tracker} (h : t.Numbered) (p : State → Bool) :
    t.count p = (List.range' 1 t.started).countP fun i => (t.state? i).any p := by
  rw [← h, List.countP_map, count]
  refine List.countP_congr fun e he => ?_
  show p e.2 = true ↔ (t.states.lookup e.1).any p = true
  rw [lookup_of_mem h.nodup he]
  rfl

/-- The counter of exchanges in flight is the number of those that await a response. -/
def Balanced (t : Tracker) : Prop := t.inFlight = t.count fun s => !s.isSettled

theorem balanced_new : Balanced {} := rfl

theorem Balanced.start {t : Tracker} (h : t.Balanced) : t.start.2.Balanced := by
  unfold Balanced at h ⊢
  rw [count_start, ← h]
  rfl

/-! ## Outcomes -/

/-- The tracker after the outcome of an exchange that awaits its response. -/
def settled (t : Tracker) (i : Id) (outcome : Outcome) : Tracker :=
  { t with inFlight := t.inFlight - 1, states := replace i outcome.state t.states }

/-- The outcome of an exchange that awaits its response is never rejected. -/
theorem settle_awaiting {t : Tracker} {i : Id} (h : t.state? i = some .awaiting) (outcome : Outcome) :
    t.settle i outcome = .ok (t.settled i outcome) := by
  rw [settle, h]
  rfl

theorem Outcome.isSettled_state (outcome : Outcome) : outcome.state.isSettled = true := by
  cases outcome <;> rfl

theorem Numbered.settled {t : Tracker} (h : t.Numbered) (i : Id) (outcome : Outcome) :
    (t.settled i outcome).Numbered :=
  (map_fst_replace i outcome.state t.states).trans h

theorem state?_settled {t : Tracker} {i : Id} (h : t.state? i = some .awaiting) (outcome : Outcome) (j : Id) :
    (t.settled i outcome).state? j = if j = i then some outcome.state else t.state? j :=
  state?_replace h outcome.state (t.inFlight - 1) j

/-- One exchange less is in flight, and the counter never runs below zero. -/
theorem Balanced.settled {t : Tracker} (hb : t.Balanced) (hn : t.Numbered) {i : Id}
    (h : t.state? i = some .awaiting) (outcome : Outcome) : (t.settled i outcome).Balanced := by
  have hc := count_replace (fun s => !s.isSettled) hn h outcome.state (t.inFlight - 1)
  rw [Outcome.isSettled_state outcome] at hc
  unfold Balanced at hb ⊢
  have hi : (t.settled i outcome).inFlight = t.inFlight - 1 := rfl
  rw [hi, hb]
  have ha : (!State.awaiting.isSettled) = true := rfl
  rw [if_pos ha, Bool.not_true, if_neg Bool.false_ne_true] at hc
  unfold Tracker.settled
  omega

theorem count_isFailed_settled {t : Tracker} (hn : t.Numbered) {i : Id} (h : t.state? i = some .awaiting)
    (outcome : Outcome) :
    (t.settled i outcome).count State.isFailed =
      t.count State.isFailed + if outcome.state.isFailed then 1 else 0 :=
  count_replace State.isFailed hn h outcome.state (t.inFlight - 1)

end Tracker

end Parley.Exchange

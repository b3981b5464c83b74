import Parley.Controller.Operations

/-!
# How far the exchanges of a chat have got

What changing the phase of one exchange does to the exchanges handed over:

* `getElem?_setPhase`, `mem_setPhase` : who is there afterwards;
* `setPhase_setPhase`, `setPhase_self`, `setPhase_absent` : when it comes to less;
* `Pending.core` : what no phase has a part in; `core_setPhase`, `exchange_setPhase`.
-/

namespace Parley.Controller

variable (c : Controller) (k : Nat)

theorem setPhase_setPhase (first last : Phase) : (c.setPhase k first).setPhase k last = c.setPhase k last := by
  unfold setPhase
  simp only [List.modify_modify_eq]
  rfl

theorem getElem?_setPhase (phase : Phase) (j : Nat) :
    (c.setPhase k phase).pending[j]? =
      if k = j then (c.pending[j]?).map fun p => { p with phase } else c.pending[j]? := by
  unfold setPhase
  rw [List.getElem?_modify]
  split <;> simp

theorem setPhase_self {p : Pending} (hp : c.pending[k]? = some p) : (c.setPhase k p.phase).pending = c.pending := by
  refine List.ext_getElem? fun j => ?_
  rw [getElem?_setPhase]
  split
  · next hk =>
    subst hk
    rw [hp]
    rfl
  · rfl

theorem setPhase_absent (h : c.pending[k]? = none) (phase : Phase) :
    (c.setPhase k phase).pending = c.pending := by
  refine List.ext_getElem? fun j => ?_
  rw [getElem?_setPhase]
  split
  · next hk =>
    subst hk
    rw [h]
    rfl
  · rfl

/-- Whoever is there afterwards was there before, or is the one that was changed. -/
theorem mem_setPhase {c : Controller} {k : Nat} {phase : Phase} {p : Pending}
    (hp : p ∈ (c.setPhase k phase).pending) :
    (∃ j, k ≠ j ∧ c.pending[j]? = some p) ∨ ∃ q, c.pending[k]? = some q ∧ p = { q with phase } := by
  obtain ⟨j, hj⟩ := List.mem_iff_getElem?.mp hp
  rw [getElem?_setPhase] at hj
  split at hj
  · next hk =>
    subst hk
    obtain ⟨q, hq, rfl⟩ := Option.map_eq_some_iff.mp hj
    exact .inr ⟨q, hq, rfl⟩
  · next hk => exact .inl ⟨j, hk, hj⟩

def Pending.core (p : Pending) : Exchange.Id × String := (p.exchange, p.input)

theorem core_setPhase (phase : Phase) :
    (c.setPhase k phase).pending.map Pending.core = c.pending.map Pending.core := by
  refine List.ext_getElem? fun j => ?_
  rw [List.getElem?_map, List.getElem?_map, getElem?_setPhase]
  split
  · rw [Option.map_map]
    rfl
  · rfl

theorem exchange_setPhase (phase : Phase) :
    (c.setPhase k phase).pending.map Pending.exchange = c.pending.map Pending.exchange := by
  have h := congrArg (List.map Prod.fst) (core_setPhase c k phase)
  rw [List.map_map, List.map_map] at h
  exact h

end Parley.Controller

import Parley.Proofs.Controller.Polling
import Parley.Proofs.Host.Requests

/-!
# What polling finds

* `Turn.asked?` : the request whose answer polling looks for, and its number;
* `ended?_poll`, `ended?_eq`, `asked?_of_ended?` : an exchange ends by being polled when the answer to its request is
  there, and by nothing else as long as an id can be had for it.
-/

namespace Parley.Turn

open Controller (Pending Progress Reply)

/-- The request whose answer is looked for, and its number. -/
def asked? (t : Turn Host Host.Move) : Option (Nat × Exchange.Request) :=
  match t.move with
  | .poll k => t.before.asked? k t.state.supply.fresh
  | _ => none

variable {t : Turn Host Host.Move} {k : Nat} {p : Pending}

theorem ended?_poll (move : t.move = .poll k) (hp : t.before.pending[k]? = some p) :
    t.ended? = (t.before.poll t.state.supply.fresh (fun n _ => t.state.script.answer? n) k).result.returned?.map
      (p.exchange, ·) := by
  obtain ⟨h, m⟩ := t
  obtain rfl : m = .poll k := move
  obtain ⟨-, -, answer⟩ := step_poll h k
  have hpolled : Turn.polled? ⟨h, .poll k⟩ = some p := hp
  unfold ended?
  rw [hpolled]
  have hanswer : Turn.outcome ⟨h, .poll k⟩ = h.step (.poll k) := rfl
  rw [hanswer, answer]
  show _ = (h.chat.poll h.supply.fresh (fun n _ => h.script.answer? n) k).result.returned?.map (p.exchange, ·)
  cases (h.chat.poll h.supply.fresh (fun n _ => h.script.answer? n) k).result <;> rfl

theorem asked?_poll (move : t.move = .poll k) : t.asked? = t.before.asked? k t.state.supply.fresh := by
  unfold asked?
  rw [move]

theorem ended?_eq (move : t.move = .poll k) (hp : t.before.pending[k]? = some p) {n : Nat} {q : Exchange.Request}
    (hq : t.asked? = some (n, q)) :
    t.ended? = (t.state.script.answer? n).map fun a => (p.exchange, t.before.returns p.exchange a.result) := by
  rw [asked?_poll move] at hq
  rw [ended?_poll move hp]
  have hway := Controller.poll_polling t.before k t.state.supply.fresh fun n _ => t.state.script.answer? n
  generalize t.before.poll t.state.supply.fresh (fun n _ => t.state.script.answer? n) k = s at hway ⊢
  cases hway with
  | unknown absent => exact nomatch hp.symm.trans absent
  | gone hp phase => exact nomatch hq.symm.trans (Controller.asked?_gone hp phase _)
  | refused hp phase established => exact nomatch hq.symm.trans (Controller.asked?_refused hp phase established)
  | started hp' phase established =>
    obtain rfl := Option.some.inj (hp.symm.trans hp')
    obtain ⟨rfl, -⟩ := Prod.mk.inj (Option.some.inj (hq.symm.trans (Controller.asked?_started hp phase established)))
    show Option.map _ (Controller.resume _ _ k _ _ _).result.returned? = _
    rw [Controller.returned?_resume, Option.map_map]
    rfl
  | waiting hp' phase =>
    obtain rfl := Option.some.inj (hp.symm.trans hp')
    obtain ⟨rfl, -⟩ := Prod.mk.inj (Option.some.inj (hq.symm.trans (Controller.asked?_waiting hp phase _)))
    rw [Controller.returned?_resume, Option.map_map]
    rfl

/-- Who looks for nothing does not end, as long as an id can be had. -/
theorem ended?_of_not_asked? (move : t.move = .poll k) (hq : t.asked? = none)
    (hr : t.before.store.resolves t.before.config.sessionKey = true) : t.ended? = none := by
  cases hp : t.before.pending[k]? with
  | none =>
    refine ended?_of_polled? ?_
    unfold polled?
    rw [move]
    exact hp
  | some p =>
    rw [asked?_poll move] at hq
    rw [ended?_poll move hp]
    have hway := Controller.poll_polling t.before k t.state.supply.fresh fun n _ => t.state.script.answer? n
    generalize t.before.poll t.state.supply.fresh (fun n _ => t.state.script.answer? n) k = s at hway ⊢
    cases hway with
    | unknown | gone => rfl
    | refused hp phase established =>
      have hspec := Session.Identity.establish_spec t.before.config.sessionKey t.state.supply.fresh t.before.store
      rw [established] at hspec
      obtain ⟨id, hid⟩ := hspec.resolves.mp hr
      exact nomatch hid
    | started hp phase established => exact nomatch hq.symm.trans (Controller.asked?_started hp phase established)
    | waiting hp phase => exact nomatch hq.symm.trans (Controller.asked?_waiting hp phase _)

/-- Whoever ends has found the answer to a request. -/
theorem asked?_of_ended? (hr : t.before.store.resolves t.before.config.sessionKey = true) {i : Exchange.Id}
    {x : Except Exchange.Error Reply} (h : t.ended? = some (i, x)) :
    ∃ k p n q a, t.move = .poll k ∧ t.before.pending[k]? = some p ∧ p.exchange = i ∧ t.asked? = some (n, q) ∧
      t.state.script.answer? n = some a ∧ x = t.before.returns i a.result := by
  cases hpolled : t.polled? with
  | none => exact nomatch h.symm.trans (ended?_of_polled? hpolled)
  | some p =>
    obtain ⟨k, move, hp⟩ := polled?_eq_some hpolled
    cases hq : t.asked? with
    | none => exact nomatch h.symm.trans (ended?_of_not_asked? move hq hr)
    | some q =>
      obtain ⟨n, q⟩ := q
      rw [ended?_eq move hp hq] at h
      obtain ⟨a, ha, hx⟩ := Option.map_eq_some_iff.mp h
      obtain ⟨rfl, rfl⟩ := Prod.mk.inj hx
      exact ⟨k, p, n, q, a, move, hp, rfl, rfl, ha, rfl⟩

end Parley.Turn

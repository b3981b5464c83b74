import Mathlib.Data.List.Forall2
import Mathlib.Data.Option.Defs
import Parley.Exchange.Reply
import Parley.Exchange.Script

/-!
# Answers side by side

* `Prepared.Alike`, `Script.Alike` : the same requests get answers that are alike, now and later (`Script.Alike.next`,
  `answer?`, `take`, `prepare`, `release?`); `Script.Alike.eq` : the same answers;
* `Arrival.Alike` : arrivals with one result, of which other things may be told;
* `Told` : lists in which something else is told here and there.
-/

namespace Parley.Exchange

/-! ## Prepared answers -/

section Script
variable {α : Type} {R : α → α → Prop}

/-- Both are ready and alike, or both are held back. -/
inductive Prepared.Alike (R : α → α → Prop) : Prepared α → Prepared α → Prop
  | ready {a a' : α} (h : R a a') : Alike R (.ready a) (.ready a')
  | held : Alike R .held .held

theorem Prepared.Alike.refl (hR : ∀ a, R a a) (p : Prepared α) : p.Alike R p := by
  cases p with
  | ready a => exact .ready (hR a)
  | held => exact .held

namespace Script

/-- Every request has got, or will get, answers that are alike. -/
structure Alike (R : α → α → Prop) (s s' : Script α) : Prop where
  queue : List.Forall₂ (Prepared.Alike R) s.queue s'.queue
  taken : List.Forall₂ (Option.Rel R) s.taken s'.taken
  last : R s.last s'.last

theorem Alike.refl (hR : ∀ a, R a a) (s : Script α) : s.Alike R s := by
  refine ⟨List.forall₂_same.mpr fun p _ => .refl hR p, List.forall₂_same.mpr fun a _ => ?_, hR _⟩
  cases a with
  | none => exact .none
  | some a => exact .some (hR a)

variable {s s' : Script α}

theorem Alike.eq (h : s.Alike (· = ·) s') : s' = s := by
  obtain ⟨queue, taken, last⟩ := s
  obtain ⟨queue', taken', last'⟩ := s'
  obtain ⟨hqueue, htaken, rfl⟩ := h
  have hprepared : ∀ p p' : Prepared α, p.Alike (· = ·) p' → p = p' := by
    rintro _ _ (h | -)
    · rw [h]
    · rfl
  have hanswer : ∀ a a' : Option α, Option.Rel (· = ·) a a' → a = a' := by
    rintro _ _ (h | -)
    · rw [h]
    · rfl
  obtain rfl := List.forall₂_eq_eq_eq ▸ hqueue.imp hprepared
  obtain rfl := List.forall₂_eq_eq_eq ▸ htaken.imp hanswer
  rfl

theorem Alike.next (h : s.Alike R s') : Option.Rel R s.next s'.next := by
  obtain ⟨hq, -, hl⟩ := h
  unfold Script.next
  generalize s.queue = q, s'.queue = q' at hq
  cases hq with
  | nil => exact .some hl
  | cons hp _ =>
    cases hp with
    | ready ha => exact .some ha
    | held => exact .none

theorem forall₂_tail {β : Type} {Q : β → β → Prop} {l l' : List β} (h : List.Forall₂ Q l l') :
    List.Forall₂ Q l.tail l'.tail := by
  cases h with
  | nil => exact .nil
  | cons _ h => exact h

theorem Alike.take (h : s.Alike R s') : s.take.Alike R s'.take :=
  ⟨forall₂_tail h.queue, List.rel_append h.taken (.cons h.next .nil), h.last⟩

theorem Alike.prepare (h : s.Alike R s') {p p' : Prepared α} (hp : p.Alike R p') :
    (s.prepare p).Alike R (s'.prepare p') :=
  ⟨List.rel_append h.queue (.cons hp .nil), h.taken, h.last⟩

theorem forall₂_getElem? {β : Type} {Q : β → β → Prop} {l l' : List β} (h : List.Forall₂ Q l l') (n : Nat) :
    Option.Rel Q l[n]? l'[n]? := by
  induction h generalizing n with
  | nil => exact .none
  | cons hab _ ih =>
    cases n with
    | zero => exact .some hab
    | succ n => exact ih n

theorem forall₂_set {β : Type} {Q : β → β → Prop} {l l' : List β} (h : List.Forall₂ Q l l') {b b' : β} (hb : Q b b')
    (n : Nat) : List.Forall₂ Q (l.set n b) (l'.set n b') := by
  induction h generalizing n with
  | nil => exact .nil
  | cons hab hrest ih =>
    cases n with
    | zero => exact .cons hb hrest
    | succ n => exact .cons hab (ih n)

theorem Alike.answer? (h : s.Alike R s') (n : Nat) : Option.Rel R (s.answer? n) (s'.answer? n) := by
  unfold Script.answer?
  rw [h.taken.length_eq]
  split
  · have hn := forall₂_getElem? h.taken n
    generalize s.taken[n]? = x, s'.taken[n]? = x' at hn
    cases hn with
    | none => exact .none
    | some hx => exact hx
  · exact h.next

/-- What is held back is released on both sides, or on neither. -/
theorem Alike.release? (h : s.Alike R s') (n : Nat) {a a' : α} (ha : R a a') :
    Option.Rel (Alike R) (s.release? n a) (s'.release? n a') := by
  have hn := forall₂_getElem? h.taken n
  unfold Script.release?
  generalize s.taken[n]? = x, s'.taken[n]? = x' at hn
  cases hn with
  | none => exact .none
  | some hx =>
    cases hx with
    | some _ => exact .none
    | none => exact .some ⟨h.queue, forall₂_set h.taken (.some ha) n, h.last⟩

end Script

end Script

/-! ## What is told -/

structure Arrival.Alike (T : List Log.Event → List Log.Event → Prop) (a a' : Arrival) : Prop where
  result : a'.result = a.result
  log : T a.log a'.log

/-- The same happens, but other things may be told in some places. -/
inductive Told {ε : Type} (log : Log.Event → ε) (T : List Log.Event → List Log.Event → Prop) : List ε → List ε → Prop
  | nil : Told log T [] []
  | same (e : ε) {es es' : List ε} (h : Told log T es es') : Told log T (e :: es) (e :: es')
  | other {l l' : List Log.Event} (h : T l l') {es es' : List ε} (rest : Told log T es es') :
      Told log T (l.map log ++ es) (l'.map log ++ es')

namespace Told

variable {ε : Type} {log : Log.Event → ε} {T : List Log.Event → List Log.Event → Prop} {es es' fs fs' : List ε}

theorem refl (es : List ε) : Told log T es es := by
  induction es with
  | nil => exact .nil
  | cons e es ih => exact .same e ih

theorem append (h : Told log T es es') (hf : Told log T fs fs') : Told log T (es ++ fs) (es' ++ fs') := by
  induction h with
  | nil => exact hf
  | same e _ ih => exact .same e ih
  | other hl _ ih =>
    rw [List.append_assoc, List.append_assoc]
    exact .other hl ih

/-- Whoever tells the same in all places has the same happen. -/
theorem eq (h : Told log (· = ·) es es') : es = es' := by
  induction h with
  | nil => rfl
  | same e _ ih => rw [ih]
  | other hl _ ih => rw [hl, ih]

end Told

end Parley.Exchange

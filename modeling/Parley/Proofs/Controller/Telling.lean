import Mathlib.Data.Option.Defs
import Parley.Proofs.Controller.Polling

/-!
# What is told of an answer

* `tidings`, `Step.Tells` : what is told of an answer, and steps that differ in that only;
* `heard?`, `poll_tells` : polling looks at the result of the answer that it finds, and only tells the rest of it.
-/

namespace Parley.Controller

open Exchange (Arrival)

def tidings (a : Option Arrival) : List Effect := (a.elim [] Arrival.log).map .log

def SameResult (a a' : Arrival) : Prop := a'.result = a.result

/-- Steps that come to the same, of which the one tells of `a` and the other of `a'`. -/
inductive Step.Tells {α : Type} (a a' : Option Arrival) : Step α → Step α → Prop
  | intro (result : α) (state : Controller) (before after : List Effect) :
      Tells a a' ⟨result, state, before ++ tidings a ++ after⟩ ⟨result, state, before ++ tidings a' ++ after⟩

theorem Step.Tells.silent {α : Type} (s : Step α) : Step.Tells none none s s := by
  have hs : s = ⟨s.result, s.state, s.effects ++ tidings none ++ []⟩ := by
    rw [tidings, List.append_nil]
    exact congrArg (Step.mk s.result s.state) (List.append_nil _).symm
  rw [hs]
  exact .intro _ _ _ _

theorem Step.Tells.preceded {α : Type} {a a' : Option Arrival} {s s' : Step α} (h : Step.Tells a a' s s')
    (es : List Effect) : Step.Tells a a' (s.preceded es) (s'.preceded es) := by
  cases h with
  | intro result state before after =>
    unfold Step.preceded
    simp only [← List.append_assoc]
    exact .intro result state (es ++ before) after

variable {c : Controller} {i : Nat}

theorem complete_tells {a a' : Arrival} (h : SameResult a a') (id : Exchange.Id) :
    Step.Tells (some a) (some a') (c.complete i id a) (c.complete i id a') := by
  unfold complete
  dsimp only
  rw [h]
  cases a.result with
  | ok body => exact .intro _ _ [] _
  | error e => exact .intro _ _ [] _

theorem resume_tells {answer answer' : Nat → Exchange.Request → Option Arrival} {n : Nat} {q : Exchange.Request}
    (h : Option.Rel SameResult (answer n q) (answer' n q)) (id : Exchange.Id) :
    Step.Tells (answer n q) (answer' n q) (c.resume answer i id n q) (c.resume answer' i id n q) := by
  unfold resume
  generalize answer n q = x, answer' n q = x' at h
  cases h with
  | none => exact .silent _
  | some h => exact complete_tells h id

/-- The answer that polling exchange number `i` finds. -/
def heard? (c : Controller) (i : Nat) (fresh : SessionId) (answer : Nat → Exchange.Request → Option Arrival) :
    Option Arrival :=
  (c.asked? i fresh).bind fun q => answer q.1 q.2

/-- Polling looks at the result of the answer that it finds, and only tells the rest of it. -/
theorem poll_tells {fresh : SessionId} {answer answer' : Nat → Exchange.Request → Option Arrival}
    (h : Option.Rel SameResult (c.heard? i fresh answer) (c.heard? i fresh answer')) :
    Step.Tells (c.heard? i fresh answer) (c.heard? i fresh answer') (c.poll fresh answer i)
      (c.poll fresh answer' i) := by
  generalize hs : c.poll fresh answer i = s
  have hway := poll_polling c i fresh answer
  rw [hs] at hway
  unfold heard? at h ⊢
  cases hway with
  | unknown absent =>
    have hasked : c.asked? i fresh = none := by rw [asked?, absent, Option.bind_none]
    rw [hasked, poll_unknown absent]
    exact .silent _
  | gone hp phase =>
    rw [asked?_gone hp phase, poll_gone hp phase]
    exact .silent _
  | refused hp phase established =>
    rw [asked?_refused hp phase established, poll_refused hp phase established]
    exact .silent _
  | started hp phase established =>
    rw [asked?_started hp phase established] at h ⊢
    rw [poll_started hp phase established]
    exact (resume_tells h _).preceded _
  | waiting hp phase =>
    rw [asked?_waiting hp phase] at h ⊢
    rw [poll_waiting hp phase]
    exact resume_tells h _

end Parley.Controller

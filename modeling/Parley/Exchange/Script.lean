/-!
# Answers that are known beforehand

A `Script` stands for a transport whose answers are prepared: each request takes the next one, which is either ready or
held back until it is released.
-/

namespace Parley.Exchange

inductive Prepared (α : Type)
  | ready (answer : α)
  | held
  deriving Repr

structure Script (α : Type) where
  /-- What later requests take. -/
  queue : List (Prepared α)
  /-- What the requests so far have taken, the first one first; nothing while it is held back. -/
  taken : List (Option α) := []
  /-- What a request takes when nothing is left. -/
  last : α

namespace Script

variable {α : Type}

def next (s : Script α) : Option α :=
  match s.queue with
  | [] => some s.last
  | .ready a :: _ => some a
  | .held :: _ => none

def take (s : Script α) : Script α := { s with queue := s.queue.tail, taken := s.taken ++ [s.next] }

/-- What request number `n` has got, or will get if it is the next one. -/
def answer? (s : Script α) (n : Nat) : Option α :=
  if n < s.taken.length then (s.taken[n]?).join else s.next

def prepare (s : Script α) (p : Prepared α) : Script α := { s with queue := s.queue ++ [p] }

/-- Gives the answer of request number `n`, if it is held back. -/
def release? (s : Script α) (n : Nat) (a : α) : Option (Script α) :=
  match s.taken[n]? with
  | some none => some { s with taken := s.taken.set n (some a) }
  | _ => none

end Script

end Parley.Exchange

import Parley.Text.Shown

/-!
# The state of every exchange

* `State` : an exchange awaits its response until it is settled, once and for all;
* `Tracker.start` : gives out the next id, counting from 1;
* `Tracker.settle` : records an outcome, unless the id is unknown or settled already;
* `Tracker.apply` : the same, with the answer to whoever reports the outcome.

`Tracker.inFlight` is the number of exchanges that await a response.
-/

namespace Parley.Exchange

/-- Exchanges are numbered from 1. -/
abbrev Id := Nat

def Id.display (id : Id) : String := s!"exchange-{id}"

inductive State
  | awaiting
  | delivered
  | failed (message : String)
  deriving DecidableEq, Repr

/-- Nothing more happens to the exchange. -/
def State.isSettled : State → Bool
  | awaiting => false
  | _ => true

/-- How an exchange can end. -/
inductive Outcome
  | delivered
  | failed (message : String)
  deriving DecidableEq, Repr

def Outcome.state : Outcome → State
  | delivered => .delivered
  | failed message => .failed message

def State.shown : State → String
  | awaiting => "AwaitingResponse"
  | delivered => "Delivered"
  | failed message => s!"Failed({Text.shown message})"

/-- Why an outcome is not recorded. -/
inductive Rejection
  | unknown (id : Id)
  | alreadySettled (id : Id) (state : State)
  deriving DecidableEq, Repr

def Rejection.shown : Rejection → String
  | unknown id => s!"Unknown(ExchangeId({id}))"
  | alreadySettled id state => s!"AlreadySettled \x7b id: ExchangeId({id}), state: {state.shown} \x7d"

/-- The exchanges begun so far, in the order of their ids. -/
structure Tracker where
  started : Nat := 0
  inFlight : Nat := 0
  states : List (Id × State) := []
  deriving DecidableEq, Repr

namespace Tracker

/-- The state of an exchange; an id that was never given out has none. -/
def state? (t : Tracker) (id : Id) : Option State :=
  t.states.lookup id

def isIdle (t : Tracker) : Bool := t.inFlight == 0

/-- The next id, which awaits its response from now on. -/
def start (t : Tracker) : Id × Tracker :=
  let id := t.started + 1
  (id, ⟨id, t.inFlight + 1, t.states ++ [(id, .awaiting)]⟩)

def replace (id : Id) (s : State) (states : List (Id × State)) : List (Id × State) :=
  states.map fun e => if e.1 = id then (id, s) else e

/-- Records the outcome of an exchange that awaits its response. -/
def settle (t : Tracker) (id : Id) (outcome : Outcome) : Except Rejection Tracker :=
  match t.state? id with
  | none => .error (.unknown id)
  | some s =>
    if s.isSettled then .error (.alreadySettled id s)
    else .ok { t with inFlight := t.inFlight - 1, states := replace id outcome.state t.states }

/-- The state in which an outcome leaves its exchange, or why it is not recorded; and the tracker afterwards. -/
def apply (t : Tracker) (id : Id) (outcome : Outcome) : Except Rejection State × Tracker :=
  match t.settle id outcome with
  | .ok t' => (.ok outcome.state, t')
  | .error r => (.error r, t)

end Tracker

end Parley.Exchange

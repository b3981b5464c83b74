import Parley.Log
import Parley.Session.Id
import Parley.Session.Store

/-!
# The one id of a session

The id lives in the store under a key. Every operation answers with an `Outcome`: its result, the store
afterwards and the events told on the way.

* `current` reads the id; an absent, empty or malformed value counts as none;
* `establish` reads the id or stores a fresh one;
* `adopt` stores a given id when there is none, and refuses any other than the one in force;
* `reset` forgets the id.
-/

namespace Parley.Session

/-- The key under which the id is stored unless another is chosen. -/
def defaultKey : String := "session_id"

/-- What one operation on a store came to. -/
structure Outcome (α : Type) where
  result : Except Error α
  store : Store
  log : List Log.Event := []

def parseId (raw : String) : Except Error SessionId :=
  match SessionId.parse? raw with
  | some id => .ok id
  | none => .error (.invalidId raw)

namespace Identity

def minted (key : String) (id : SessionId) : Log.Event :=
  ⟨.debug, "minted session id", [("key", key), ("session_id", id.text)]⟩

def malformed (key raw : String) : Log.Event :=
  ⟨.warn, "ignoring malformed stored session id", [("key", key), ("error", (Error.invalidId raw).message)]⟩

/-- What a stored value says: an id, nothing, or something malformed that is passed over with a warning. -/
def interpret (key : String) : Option String → Option SessionId × List Log.Event
  | none => (none, [])
  | some raw =>
    if raw = "" then (none, [])
    else
      match SessionId.parse? raw with
      | some id => (some id, [])
      | none => (none, [malformed key raw])

def current (key : String) (s : Store) : Outcome (Option SessionId) :=
  match s.get key with
  | .error e => ⟨.error e, s, []⟩
  | .ok stored => ⟨.ok (interpret key stored).1, s, (interpret key stored).2⟩

/-- The id in force, or else `fresh`, which is then stored. -/
def establish (key : String) (fresh : SessionId) (s : Store) : Outcome SessionId :=
  match current key s with
  | ⟨.error e, _, log⟩ => ⟨.error e, s, log⟩
  | ⟨.ok (some id), _, log⟩ => ⟨.ok id, s, log⟩
  | ⟨.ok none, _, log⟩ =>
    match s.set key fresh.text with
    | .error e => ⟨.error e, s, log⟩
    | .ok s' => ⟨.ok fresh, s', log ++ [minted key fresh]⟩

/-- Takes `id` as the session's id when there is none; the id in force may be adopted again. -/
def adopt (key : String) (id : SessionId) (s : Store) : Outcome Unit :=
  match current key s with
  | ⟨.error e, _, log⟩ => ⟨.error e, s, log⟩
  | ⟨.ok (some existing), _, log⟩ =>
    if existing = id then ⟨.ok (), s, log⟩
    else ⟨.error (.alreadyEstablished existing.text id.text), s, log⟩
  | ⟨.ok none, _, log⟩ =>
    match s.set key id.text with
    | .error e => ⟨.error e, s, log⟩
    | .ok s' => ⟨.ok (), s', log⟩

def reset (key : String) (s : Store) : Outcome Unit :=
  match s.remove key with
  | .error e => ⟨.error e, s, []⟩
  | .ok s' => ⟨.ok (), s', []⟩

end Identity

/-- Fresh ids in the order in which they are drawn. -/
structure Supply where
  draw : Nat → SessionId
  drawn : Nat := 0

namespace Supply

def fresh (s : Supply) : SessionId := s.draw s.drawn

def advance (s : Supply) : Supply := { s with drawn := s.drawn + 1 }

end Supply

end Parley.Session

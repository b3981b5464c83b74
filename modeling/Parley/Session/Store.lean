import Parley.Session.Error

/-!
# Key/value storage of one session

* `Entries` : the stored pairs, one per key, with `find?`, `put` and `erase`;
* `Store` : entries together with the calls that are refused at the moment;
* `Store.get`, `Store.set`, `Store.remove` : a refused call fails and leaves the store as it is.
-/

namespace Parley.Session

/-- Stored pairs, at most one for a key. -/
abbrev Entries := List (String × String)

namespace Entries

def find? (es : Entries) (key : String) : Option String :=
  es.lookup key

def erase (es : Entries) (key : String) : Entries :=
  es.filter fun e => e.1 != key

def put (es : Entries) (key value : String) : Entries :=
  (key, value) :: es.erase key

/-- The entries of a list of pairs; of two pairs with one key the later counts. -/
def ofPairs (pairs : List (String × String)) : Entries :=
  pairs.foldl (fun es e => es.put e.1 e.2) []

/-- The pairs in the order of their keys. -/
def sorted (es : Entries) : List (String × String) :=
  es.mergeSort fun a b => a.1 ≤ b.1

theorem find?_put_self (es : Entries) (key value : String) : (es.put key value).find? key = some value := by
  simp [find?, put]

theorem find?_erase_of_ne {key other : String} (h : other ≠ key) :
    ∀ es : Entries, (es.erase key).find? other = es.find? other
  | [] => rfl
  | (k, v) :: es => by
    have ih := find?_erase_of_ne h es
    simp only [find?, erase] at ih ⊢
    by_cases hk : k = key
    · have hb : (other == k) = false := by simpa [hk] using h
      have hc : (k != key) = false := by simpa using hk
      simp only [List.filter, hc, List.lookup_cons, hb, ih]
    · have hc : (k != key) = true := by simpa using hk
      simp only [List.filter, hc, List.lookup_cons, ih]

theorem find?_erase_self (key : String) : ∀ es : Entries, (es.erase key).find? key = none
  | [] => rfl
  | (k, v) :: es => by
    have ih := find?_erase_self key es
    simp only [find?, erase] at ih ⊢
    by_cases hk : k = key
    · simpa [List.filter, hk] using ih
    · have hb : (key == k) = false := by simpa using fun e => hk e.symm
      have hc : (k != key) = true := by simpa using hk
      simp only [List.filter, hc, List.lookup_cons, hb, ih]

theorem find?_put_of_ne {key other : String} (h : other ≠ key) (es : Entries) (value : String) :
    (es.put key value).find? other = es.find? other := by
  have h' : (other == key) = false := by simpa using h
  rw [← find?_erase_of_ne h es]
  simp [find?, put, List.lookup_cons, h']

end Entries

/-- The three things asked of a store. -/
inductive Call
  | get | set | remove
  deriving DecidableEq, Repr

/-- Why a call is refused: where, and what the storage said. -/
structure Refusal where
  stage : String
  details : String
  deriving DecidableEq, Repr

/-- Entries, and the calls that fail at the moment. -/
structure Store where
  entries : Entries
  refusal : Call → Option Refusal

namespace Store

def ofEntries (entries : Entries) : Store :=
  ⟨entries, fun _ => none⟩

/-- The error of a refused call about `key`. -/
def Refusal.error (r : Refusal) (key : String) : Error :=
  .storage r.stage key r.details

/-- Reads the value under `key`. -/
def get (s : Store) (key : String) : Except Error (Option String) :=
  match s.refusal .get with
  | some r => .error (Refusal.error r key)
  | none => .ok (s.entries.find? key)

def set (s : Store) (key value : String) : Except Error Store :=
  match s.refusal .set with
  | some r => .error (Refusal.error r key)
  | none => .ok { s with entries := s.entries.put key value }

/-- Drops what is stored under `key`. -/
def remove (s : Store) (key : String) : Except Error Store :=
  match s.refusal .remove with
  | some r => .error (Refusal.error r key)
  | none => .ok { s with entries := s.entries.erase key }

end Store

end Parley.Session

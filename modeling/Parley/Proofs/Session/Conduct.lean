import Parley.Proofs.Runs
import Parley.Proofs.Session.Identity

/-!
# What the operations on a session's id do to the store

* `Store.Vacant s key` : what is stored under a key is no id;
* `current_eq`, `establish_eq`, `adopt_eq`, `reset_eq` : each operation, case by case;
* `Ask.outcome` : the operations as one; `store_of_error`, `find?_of_ne`, `outcome_congr` : an error leaves the store as
  it was, other keys are let alone, and nothing is seen of them;
* `Ask.Attempts`, `Ask.Forgoes` : whether a call is made, by what a refusal of it would change;
* `Errand`, `heard`, `heard_filter` : identities with different keys take turns on one store;
* `Conduct`, `conducted` : all of this.
-/

namespace Parley.Session

variable {s s' : Store} {key : String}

namespace Store

/-- Nothing is stored under the key, or something that is no id. -/
def Vacant (s : Store) (key : String) : Prop :=
  s.entries.find? key = none ∨ s.entries.find? key = some "" ∨
    ∃ raw, s.entries.find? key = some raw ∧ isCanonical raw = false

theorem vacant_iff : s.Vacant key ↔ s.id? key = none := by
  have hempty : SessionId.parse? "" = none := rfl
  unfold Vacant id?
  cases s.entries.find? key with
  | none => simp
  | some raw =>
    have hparse : SessionId.parse? raw = none ↔ isCanonical raw = false := by
      unfold SessionId.parse?
      split <;> simp_all
    simp only [reduceCtorEq, Option.some.injEq, false_or, exists_eq_left', Option.bind_some, hparse]
    constructor
    · rintro (rfl | h)
      · exact hparse.mp hempty
      · exact h
    · exact .inr

def refusing (s : Store) (c : Call) (r : Refusal) : Store :=
  { s with refusal := fun d => if d = c then some r else s.refusal d }

end Store

namespace Identity

/-! ## Case by case -/

/-- What is told of a stored value that is passed over. -/
def remarks (key : String) (s : Store) : List Log.Event := (interpret key (s.entries.find? key)).2

theorem current_eq (key : String) (s : Store) :
    current key s =
      match s.refusal .get with
      | some r => ⟨.error (Store.Refusal.error r key), s, []⟩
      | none => ⟨.ok (s.id? key), s, remarks key s⟩ := by
  unfold current Store.get
  cases s.refusal .get with
  | some r => rfl
  | none =>
    dsimp only
    rw [interpret_fst]
    rfl

theorem establish_eq (key : String) (fresh : SessionId) (s : Store) :
    establish key fresh s =
      match s.refusal .get, s.id? key, s.refusal .set with
      | some r, _, _ => ⟨.error (Store.Refusal.error r key), s, []⟩
      | none, some id, _ => ⟨.ok id, s, remarks key s⟩
      | none, none, some r => ⟨.error (Store.Refusal.error r key), s, remarks key s⟩
      | none, none, none => ⟨.ok fresh, s.hold key fresh, remarks key s ++ [minted key fresh]⟩ := by
  unfold establish Store.set
  rw [current_eq]
  cases s.refusal .get with
  | some r => rfl
  | none => cases s.id? key <;> cases s.refusal .set <;> rfl

theorem adopt_eq (key : String) (id : SessionId) (s : Store) :
    adopt key id s =
      match s.refusal .get, s.id? key, s.refusal .set with
      | some r, _, _ => ⟨.error (Store.Refusal.error r key), s, []⟩
      | none, some existing, _ =>
        ⟨if existing = id then .ok () else .error (.alreadyEstablished existing.text id.text), s, remarks key s⟩
      | none, none, some r => ⟨.error (Store.Refusal.error r key), s, remarks key s⟩
      | none, none, none => ⟨.ok (), s.hold key id, remarks key s⟩ := by
  unfold adopt Store.set
  rw [current_eq]
  cases s.refusal .get with
  | some r => rfl
  | none =>
    cases s.id? key with
    | some existing => exact (apply_ite (fun r => (⟨r, s, remarks key s⟩ : Outcome Unit)) _ _ _).symm
    | none => cases s.refusal .set <;> rfl

theorem reset_eq (key : String) (s : Store) :
    reset key s =
      match s.refusal .remove with
      | some r => ⟨.error (Store.Refusal.error r key), s, []⟩
      | none => ⟨.ok (), { s with entries := s.entries.erase key }, []⟩ := by
  unfold reset Store.remove
  cases s.refusal .remove <;> rfl

/-! ## The operations as one -/

namespace Ask

/-- What comes of an operation; the result is the id that is returned, if one is. -/
def outcome (key : String) (s : Store) : Ask → Outcome (Option SessionId)
  | .id fresh => ⟨(establish key fresh s).result.map some, (establish key fresh s).store, (establish key fresh s).log⟩
  | .current => Identity.current key s
  | .adopt given =>
    ⟨(Identity.adopt key given s).result.map fun _ => none, (Identity.adopt key given s).store,
      (Identity.adopt key given s).log⟩
  | .reset => ⟨(Identity.reset key s).result.map fun _ => none, (Identity.reset key s).store, (Identity.reset key s).log⟩

/-- The store that an operation leaves: the one it found, the one that holds an id under the key, or the one without it. -/
inductive Leaves (key : String) (s : Store) : Except Error (Option SessionId) → Store → Prop
  | same (result : Except Error (Option SessionId)) : Leaves key s result s
  | held (given : SessionId) (told : Option SessionId) : Leaves key s (.ok told) (s.hold key given)
  | erased : Leaves key s (.ok none) { s with entries := s.entries.erase key }

theorem leaves (key : String) (s : Store) (a : Ask) : Leaves key s (a.outcome key s).result (a.outcome key s).store := by
  cases a with
  | id fresh =>
    rw [outcome, establish_eq]
    split
    · exact .same _
    · exact .same _
    · exact .same _
    · exact .held fresh _
  | current =>
    rw [outcome, current_eq]
    split <;> exact .same _
  | adopt given =>
    rw [outcome, adopt_eq]
    split
    · exact .same _
    · exact .same _
    · exact .same _
    · exact .held given _
  | reset =>
    rw [outcome, reset_eq]
    split
    · exact .same _
    · exact .erased

theorem store_of_error {a : Ask} {e : Error} (h : (a.outcome key s).result = .error e) :
    (a.outcome key s).store = s := by
  have hleaves := a.leaves key s
  rw [h] at hleaves
  generalize (a.outcome key s).store = s' at hleaves
  cases hleaves
  rfl

/-- What is stored under other keys is let alone. -/
theorem find?_of_ne {other : String} (h : other ≠ key) (s : Store) (a : Ask) :
    (a.outcome key s).store.entries.find? other = s.entries.find? other := by
  have hleaves := a.leaves key s
  generalize (a.outcome key s).result = result, (a.outcome key s).store = s' at hleaves
  cases hleaves with
  | same => rfl
  | held given => exact Entries.find?_put_of_ne h s.entries given.text
  | erased => exact Entries.find?_erase_of_ne h s.entries

/-- An operation sees no more of the store than what is refused and what is stored under its key. -/
theorem outcome_congr (value : s'.entries.find? key = s.entries.find? key) (refusal : s'.refusal = s.refusal)
    (a : Ask) :
    (a.outcome key s').result = (a.outcome key s).result ∧ (a.outcome key s').log = (a.outcome key s).log ∧
      (a.outcome key s').store.entries.find? key = (a.outcome key s).store.entries.find? key := by
  have hid : s'.id? key = s.id? key := by rw [Store.id?, value, Store.id?]
  have hremarks : remarks key s' = remarks key s := by rw [remarks, value, remarks]
  have hheld : ∀ given, (s'.hold key given).entries.find? key = (s.hold key given).entries.find? key := fun given =>
    (Entries.find?_put_self ..).trans (Entries.find?_put_self ..).symm
  cases a with
  | id fresh =>
    simp only [outcome, establish_eq, refusal, hid, hremarks]
    split
    · exact ⟨rfl, rfl, value⟩
    · exact ⟨rfl, rfl, value⟩
    · exact ⟨rfl, rfl, value⟩
    · exact ⟨rfl, rfl, hheld fresh⟩
  | current =>
    simp only [outcome, current_eq, refusal, hid, hremarks]
    split <;> exact ⟨rfl, rfl, value⟩
  | adopt given =>
    simp only [outcome, adopt_eq, refusal, hid, hremarks]
    split
    · exact ⟨rfl, rfl, value⟩
    · exact ⟨rfl, rfl, value⟩
    · exact ⟨rfl, rfl, value⟩
    · exact ⟨rfl, rfl, hheld given⟩
  | reset =>
    simp only [outcome, reset_eq, refusal]
    split
    · exact ⟨rfl, rfl, value⟩
    · exact ⟨rfl, rfl, (Entries.find?_erase_self ..).trans (Entries.find?_erase_self ..).symm⟩

/-! ## Which calls are made -/

/-- Such a call is made: if it is refused, that is the error of the operation. -/
def Attempts (key : String) (s : Store) (a : Ask) (c : Call) : Prop :=
  ∀ r, (a.outcome key (s.refusing c r)).result = .error (Store.Refusal.error r key)

/-- No such call is made: whether it is refused makes no difference. -/
def Forgoes (key : String) (s : Store) (a : Ask) (c : Call) : Prop :=
  ∀ r, a.outcome key (s.refusing c r) = { a.outcome key s with store := (a.outcome key s).store.refusing c r }

/-- What makes no difference is no error, however it is refused. -/
theorem Forgoes.not_attempts {a : Ask} {c : Call} (h : a.Forgoes key s c) : ¬ a.Attempts key s c := by
  intro hattempts
  have hresult : ∀ r, (a.outcome key s).result = .error (Store.Refusal.error r key) := fun r => by
    rw [← hattempts r, h r]
  have hsame := (hresult ⟨"here", ""⟩).symm.trans (hresult ⟨"there", ""⟩)
  simp [Store.Refusal.error] at hsame

/-- Where an id is stored, or nothing can be read, nothing is written. -/
theorem forgoes_id (fresh : SessionId) (h : ¬ (s.allows .get = true ∧ s.id? key = none)) :
    (Ask.id fresh).Forgoes key s .set := by
  intro r
  have hset : (s.refusing .set r).refusal .set = some r := rfl
  have hget : (s.refusing .set r).refusal .get = s.refusal .get := rfl
  have hid : (s.refusing .set r).id? key = s.id? key := rfl
  have hremarks : remarks key (s.refusing .set r) = remarks key s := rfl
  simp only [outcome, establish_eq, hget, hset, hid, hremarks]
  cases hg : s.refusal .get with
  | some r => rfl
  | none =>
    cases hi : s.id? key with
    | some id => rfl
    | none => exact absurd ⟨Option.isNone_iff_eq_none.mpr hg, hi⟩ h

theorem attempts_id_iff (fresh : SessionId) :
    (Ask.id fresh).Attempts key s .set ↔ s.allows .get = true ∧ s.id? key = none := by
  constructor
  · intro h
    by_contra hno
    exact (forgoes_id fresh hno).not_attempts h
  · rintro ⟨hget, hid⟩ r
    have hg : (s.refusing .set r).refusal .get = none := Option.isNone_iff_eq_none.mp hget
    have hi : (s.refusing .set r).id? key = none := hid
    have hset : (s.refusing .set r).refusal .set = some r := rfl
    rw [outcome, establish_eq, hg, hi, hset]
    rfl

theorem forgoes_current {c : Call} (h : c ≠ .get) : Ask.current.Forgoes key s c := by
  intro r
  have hget : (s.refusing c r).refusal .get = s.refusal .get := if_neg h.symm
  have hid : (s.refusing c r).id? key = s.id? key := rfl
  have hremarks : remarks key (s.refusing c r) = remarks key s := rfl
  simp only [outcome, current_eq, hget, hid, hremarks]
  cases s.refusal .get <;> rfl

theorem forgoes_adopt {given : SessionId} (h : s.id? key = some given) : (Ask.adopt given).Forgoes key s .set := by
  intro r
  have hget : (s.refusing .set r).refusal .get = s.refusal .get := rfl
  have hid : (s.refusing .set r).id? key = some given := h
  have hremarks : remarks key (s.refusing .set r) = remarks key s := rfl
  simp only [outcome, adopt_eq, hget, hid, h, hremarks]
  cases s.refusal .get <;> rfl

end Ask

/-! ## Identities with different keys -/

/-- An operation of one of several identities on a store, with what is refused while it goes on. -/
structure Errand where
  refusal : Call → Option Refusal
  key : String
  ask : Ask

namespace Errand

def outcome (s : Store) (e : Errand) : Outcome (Option SessionId) :=
  e.ask.outcome e.key { s with refusal := e.refusal }

def step (s : Store) (e : Errand) : Store := (e.outcome s).store

end Errand

/-- What comes of the operations under a key, one after another. -/
def heard (key : String) (s : Store) (es : List Errand) : List (Except Error (Option SessionId) × List Log.Event) :=
  ((Turn.list Errand.step s es).filter fun t => t.move.key = key).map fun t =>
    ((t.move.outcome t.state).result, (t.move.outcome t.state).log)

theorem heard_cons (key : String) (s : Store) (e : Errand) (es : List Errand) :
    heard key s (e :: es) =
      if e.key = key then ((e.outcome s).result, (e.outcome s).log) :: heard key (e.step s) es
      else heard key (e.step s) es := by
  unfold heard
  rw [Turn.list, List.filter_cons]
  by_cases h : e.key = key <;> simp [h]

/-- What is stored under a key at the beginning, and what is done under it, decide all that comes of that. -/
theorem heard_filter {es : List Errand} (value : s'.entries.find? key = s.entries.find? key) :
    heard key s es = heard key s' (es.filter fun e => e.key = key) ∧
      (es.foldl Errand.step s).entries.find? key =
        ((es.filter fun e => e.key = key).foldl Errand.step s').entries.find? key := by
  induction es generalizing s s' with
  | nil => exact ⟨rfl, value.symm⟩
  | cons e es ih =>
    rw [heard_cons, List.foldl_cons]
    by_cases hkey : e.key = key
    · subst hkey
      have hvalue : ({ s' with refusal := e.refusal } : Store).entries.find? e.key =
          ({ s with refusal := e.refusal } : Store).entries.find? e.key := value
      obtain ⟨hresult, hlog, hvalue⟩ := Ask.outcome_congr hvalue rfl e.ask
      obtain ⟨hheard, hlast⟩ := ih hvalue
      have hfilter : (e :: es).filter (fun e' => e'.key = e.key) = e :: es.filter fun e' => e'.key = e.key := by simp
      rw [hfilter, heard_cons, if_pos rfl, if_pos rfl, List.foldl_cons]
      exact ⟨congrArg₂ List.cons (Prod.ext hresult.symm hlog.symm) hheard, hlast⟩
    · have hvalue : s'.entries.find? key = (e.step s).entries.find? key :=
        value.trans (Ask.find?_of_ne (fun h => hkey h.symm) { s with refusal := e.refusal } e.ask).symm
      have hfilter : (e :: es).filter (fun e' => e'.key = key) = es.filter fun e' => e'.key = key := by simp [hkey]
      rw [hfilter, if_neg hkey]
      exact ih hvalue

/-! ## Every operation -/

/-- How the operations under a key treat a store. -/
structure Conduct (key : String) (s : Store) : Prop where
  /-- An error leaves the store as it was. -/
  whole : ∀ (a : Ask) (e : Error), (a.outcome key s).result = .error e → (a.outcome key s).store = s
  /-- What is stored under other keys is let alone. -/
  apart : ∀ (a : Ask) (other : String), other ≠ key →
    (a.outcome key s).store.entries.find? other = s.entries.find? other
  /-- Reading the id writes and removes nothing. -/
  current : (Identity.current key s).store = s ∧ ∀ c, c ≠ .get → Ask.current.Forgoes key s c
  /-- Whoever asks for an id writes exactly when the store can be read and holds none. -/
  writes : ∀ fresh, (Ask.id fresh).Attempts key s .set ↔ s.allows .get = true ∧ s.Vacant key
  writesNot : ∀ fresh, ¬ (s.allows .get = true ∧ s.Vacant key) → (Ask.id fresh).Forgoes key s .set
  minted : ∀ fresh, s.allows .get = true → s.Vacant key → s.allows .set = true →
    (establish key fresh s).result = .ok fresh ∧
      (establish key fresh s).store.entries.find? key = some fresh.text ∧ isCanonical fresh.text = true
  found : ∀ fresh id, s.allows .get = true → s.entries.find? key = some (SessionId.text id) →
    (establish key fresh s).result = .ok id ∧ (establish key fresh s).store = s
  /-- The id that is held can be adopted again, which writes nothing. -/
  again : ∀ id, s.entries.find? key = some (SessionId.text id) →
    (adopt key id s).store = s ∧ (Ask.adopt id).Forgoes key s .set
  adopts : ∀ id, (adopt key id s).result = .ok () ↔ s.allows .get = true ∧
    (s.entries.find? key = some (SessionId.text id) ∨ s.Vacant key ∧ s.allows .set = true)
  adopted : ∀ id, (adopt key id s).result = .ok () →
    (adopt key id s).store.entries.find? key = some (SessionId.text id)
  resets : (reset key s).result = .ok () ↔ s.allows .remove = true
  forgotten : (reset key s).result = .ok () → (reset key s).store.entries.find? key = none

/-- Whatever is stored and whatever is refused, every operation either fails and changes nothing, or does what it is for
under its own key; and of what is done under other keys nothing can be noticed. -/
theorem conducted :
    (∀ key s, Conduct key s) ∧
    ∀ key s es, heard key s es = heard key s (es.filter fun e => e.key = key) ∧
      (es.foldl Errand.step s).entries.find? key =
        ((es.filter fun e => e.key = key).foldl Errand.step s).entries.find? key := by
  refine ⟨fun key s => ?_, fun key s es => heard_filter rfl⟩
  refine ⟨fun _ _ => Ask.store_of_error, fun a other h => Ask.find?_of_ne h s a, ?current, ?writes, ?writesNot, ?minted,
    ?found, ?again, ?adopts, ?adopted, ?resets, ?forgotten⟩
  case current =>
    refine ⟨?_, fun _ => Ask.forgoes_current⟩
    rw [current_eq]
    split <;> rfl
  case writes =>
    intro fresh
    rw [Ask.attempts_id_iff, Store.vacant_iff]
  case writesNot =>
    intro fresh h
    rw [Store.vacant_iff] at h
    exact Ask.forgoes_id fresh h
  case minted =>
    intro fresh hget hvacant hset
    rw [establish_eq, Option.isNone_iff_eq_none.mp hget, Store.vacant_iff.mp hvacant, Option.isNone_iff_eq_none.mp hset]
    exact ⟨rfl, Entries.find?_put_self .., fresh.canonical⟩
  case found =>
    intro fresh id hget hid
    rw [establish_eq, Option.isNone_iff_eq_none.mp hget, Store.id?_eq_some.mpr hid]
    exact ⟨rfl, rfl⟩
  case again =>
    intro id h
    have hid := Store.id?_eq_some.mpr h
    refine ⟨?_, Ask.forgoes_adopt hid⟩
    rw [adopt_eq, hid]
    cases s.refusal .get <;> rfl
  case adopts =>
    intro id
    rw [← Store.id?_eq_some, Store.vacant_iff, adopt_eq, Store.allows, Store.allows]
    cases s.refusal .get with
    | some r => simp
    | none => cases s.id? key <;> cases s.refusal .set <;> simp
  case adopted =>
    intro id h
    have hspec := adopt_spec key id s
    rw [h] at hspec
    generalize (adopt key id s).store = s' at hspec
    cases hspec with
    | again _ hid => exact Store.id?_eq_some.mp hid
    | stored => exact Entries.find?_put_self ..
  case resets =>
    rw [reset_eq, Store.allows]
    cases s.refusal .remove <;> simp
  case forgotten =>
    intro h
    rw [reset_eq] at h ⊢
    cases hr : s.refusal .remove with
    | some r =>
      rw [hr] at h
      exact nomatch h
    | none => exact Entries.find?_erase_self ..

end Identity

end Parley.Session

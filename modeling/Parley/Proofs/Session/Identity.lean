import Parley.Session.Identity

/-!
# What can come of the operations on a session's id

* `Store.id? s key` : the id that is stored; a canonical text stands for one id only (`id?_eq_some`);
* `Store.allows`, `Store.resolves`, `Store.Holds`, `Store.Open` : which calls are not refused, whether an id can be had,
  and stores of which more is known;
* `Established`, `Adopted` : every result of an operation, with the store afterwards; an error leaves the
  store as it was. `establish_spec`, `adopt_spec`, `reset_refused`, and `current_allowed`, `current_refused`;
  `Established.held`, `establish_unrefused`, `reset_unrefused`, `adopt_unrefused` for those stores;
* `Ask.serves` : whatever is asked of a handle, the id in force stays unless it is forgotten, and no other is told.
-/

namespace Parley

theorem SessionId.parse?_text (id : SessionId) : SessionId.parse? id.text = some id :=
  dif_pos id.canonical

theorem SessionId.text_of_parse? {raw : String} {id : SessionId} (h : SessionId.parse? raw = some id) :
    id.text = raw := by
  unfold SessionId.parse? at h
  split at h
  · obtain rfl := Option.some.inj h
    rfl
  · exact nomatch h

namespace Session

variable {s : Store} {key : String} {id : SessionId}

namespace Store

def id? (s : Store) (key : String) : Option SessionId := (s.entries.find? key).bind SessionId.parse?

theorem id?_eq_some : s.id? key = some id ↔ s.entries.find? key = some id.text := by
  unfold id?
  constructor
  · intro h
    obtain ⟨raw, hraw, hid⟩ := Option.bind_eq_some_iff.mp h
    rw [hraw, SessionId.text_of_parse? hid]
  · intro h
    rw [h]
    exact SessionId.parse?_text id

/-- A call of this kind is not refused. -/
def allows (s : Store) (c : Call) : Bool := (s.refusal c).isNone

/-- An id can be had: it is stored and can be read, or one can be stored. -/
def resolves (s : Store) (key : String) : Bool := s.allows .get && ((s.id? key).isSome || s.allows .set)

structure Holds (s : Store) (key : String) (id : SessionId) : Prop where
  get : s.allows .get = true
  stored : s.id? key = some id

theorem Holds.resolves (h : s.Holds key id) : s.resolves key = true := by
  rw [Store.resolves, h.get, h.stored]
  rfl

def Open (s : Store) : Prop := ∀ c, s.allows c = true

theorem get_allowed (h : s.allows .get = true) (key : String) : s.get key = .ok (s.entries.find? key) := by
  rw [get, Option.isNone_iff_eq_none.mp h]

theorem get_refused (h : s.allows .get = false) (key : String) : ∃ e, s.get key = .error e := by
  obtain ⟨r, hr⟩ := Option.isSome_iff_exists.mp (Option.isNone_eq_false_iff.mp h)
  rw [get, hr]
  exact ⟨_, rfl⟩

def hold (s : Store) (key : String) (id : SessionId) : Store := { s with entries := s.entries.put key id.text }

theorem id?_hold (s : Store) (key : String) (id : SessionId) : (s.hold key id).id? key = some id :=
  id?_eq_some.mpr (Entries.find?_put_self s.entries key id.text)

theorem set_allowed (h : s.allows .set = true) (key : String) (id : SessionId) :
    s.set key id.text = .ok (s.hold key id) := by
  rw [set, Option.isNone_iff_eq_none.mp h]
  rfl

theorem set_refused (h : s.allows .set = false) (key value : String) : ∃ e, s.set key value = .error e := by
  obtain ⟨r, hr⟩ := Option.isSome_iff_exists.mp (Option.isNone_eq_false_iff.mp h)
  rw [set, hr]
  exact ⟨_, rfl⟩

end Store

namespace Identity

theorem interpret_fst (key : String) (stored : Option String) :
    (interpret key stored).1 = stored.bind SessionId.parse? := by
  cases stored with
  | none => rfl
  | some raw =>
    unfold interpret
    dsimp only
    split
    · next h =>
      subst h
      rfl
    · show _ = SessionId.parse? raw
      cases SessionId.parse? raw <;> rfl

theorem current_allowed (h : s.allows .get = true) (key : String) :
    ∃ log, current key s = ⟨.ok (s.id? key), s, log⟩ := by
  refine ⟨(interpret key (s.entries.find? key)).2, ?_⟩
  unfold current
  rw [Store.get_allowed h]
  dsimp only
  rw [interpret_fst]
  rfl

theorem current_refused (h : s.allows .get = false) (key : String) : ∃ e, current key s = ⟨.error e, s, []⟩ := by
  obtain ⟨e, he⟩ := Store.get_refused h key
  refine ⟨e, ?_⟩
  rw [current, he]

inductive Established (key : String) (fresh : SessionId) (s : Store) : Except Error SessionId → Store → Prop
  | found {id : SessionId} (get : s.allows .get = true) (h : s.id? key = some id) :
      Established key fresh s (.ok id) s
  | minted (get : s.allows .get = true) (h : s.id? key = none) (set : s.allows .set = true) :
      Established key fresh s (.ok fresh) (s.hold key fresh)
  | unread {e : Error} (get : s.allows .get = false) : Established key fresh s (.error e) s
  | unwritten {e : Error} (get : s.allows .get = true) (h : s.id? key = none) (set : s.allows .set = false) :
      Established key fresh s (.error e) s

theorem establish_spec (key : String) (fresh : SessionId) (s : Store) :
    Established key fresh s (establish key fresh s).result (establish key fresh s).store := by
  unfold establish
  cases hg : s.allows .get with
  | false =>
    obtain ⟨e, he⟩ := current_refused hg key
    rw [he]
    exact .unread hg
  | true =>
    obtain ⟨log, hc⟩ := current_allowed hg key
    rw [hc]
    cases hid : s.id? key with
    | some id => exact .found hg hid
    | none =>
      dsimp only
      cases hs : s.allows .set with
      | false =>
        obtain ⟨e, he⟩ := Store.set_refused hs key fresh.text
        rw [he]
        exact .unwritten hg hid hs
      | true =>
        rw [Store.set_allowed hs]
        exact .minted hg hid hs

inductive Adopted (key : String) (id : SessionId) (s : Store) : Except Error Unit → Store → Prop
  | again (get : s.allows .get = true) (h : s.id? key = some id) : Adopted key id s (.ok ()) s
  | other {existing : SessionId} (get : s.allows .get = true) (h : s.id? key = some existing) (ne : existing ≠ id) :
      Adopted key id s (.error (.alreadyEstablished existing.text id.text)) s
  | stored (get : s.allows .get = true) (h : s.id? key = none) (set : s.allows .set = true) :
      Adopted key id s (.ok ()) (s.hold key id)
  | unread {e : Error} (get : s.allows .get = false) : Adopted key id s (.error e) s
  | unwritten {e : Error} (get : s.allows .get = true) (h : s.id? key = none) (set : s.allows .set = false) :
      Adopted key id s (.error e) s

theorem adopt_spec (key : String) (id : SessionId) (s : Store) :
    Adopted key id s (adopt key id s).result (adopt key id s).store := by
  unfold adopt
  cases hg : s.allows .get with
  | false =>
    obtain ⟨e, he⟩ := current_refused hg key
    rw [he]
    exact .unread hg
  | true =>
    obtain ⟨log, hc⟩ := current_allowed hg key
    rw [hc]
    cases hid : s.id? key with
    | some existing =>
      dsimp only
      split
      · next h =>
        subst h
        exact .again hg hid
      · next h => exact .other hg hid h
    | none =>
      dsimp only
      cases hs : s.allows .set with
      | false =>
        obtain ⟨e, he⟩ := Store.set_refused hs key id.text
        rw [he]
        exact .unwritten hg hid hs
      | true =>
        rw [Store.set_allowed hs]
        exact .stored hg hid hs

theorem reset_refused {e : Error} (h : (reset key s).result = .error e) : (reset key s).store = s := by
  unfold reset at h ⊢
  split at h
  · rfl
  · exact nomatch h

theorem Established.resolves {fresh : SessionId} {result : Except Error SessionId} {s' : Store}
    (h : Established key fresh s result s') : s.resolves key = true ↔ ∃ id, result = .ok id := by
  unfold Store.resolves
  cases h with
  | found get hid => simp [get, hid]
  | minted get hid set => simp [get, hid, set]
  | unread get => simp [get]
  | unwritten get hid set => simp [get, hid, set]

theorem Established.store_eq {fresh : SessionId} {e : Error} {s' : Store} (h : Established key fresh s (.error e) s') :
    s' = s := by
  cases h <;> rfl

theorem Established.id?_eq {fresh : SessionId} {s' : Store} (h : Established key fresh s (.ok id) s') :
    s'.id? key = some id := by
  cases h with
  | found get hid => exact hid
  | minted => exact Store.id?_hold s key _

/-- Whoever asks for an id that is there is told it, and nothing is stored. -/
theorem Established.held {fresh : SessionId} {result : Except Error SessionId} {s' : Store}
    (h : Established key fresh s result s') (hs : s.Holds key id) : result = .ok id ∧ s' = s := by
  cases h with
  | found get hid =>
    obtain rfl := Option.some.inj (hid.symm.trans hs.stored)
    exact ⟨rfl, rfl⟩
  | minted get hid | unwritten get hid => exact nomatch hid.symm.trans hs.stored
  | unread get => exact nomatch get.symm.trans hs.get

theorem establish_unrefused (hs : s.Open) (key : String) (fresh : SessionId) :
    ∃ id s' log, establish key fresh s = ⟨.ok id, s', log⟩ ∧ s'.Open ∧ s'.id? key = some id ∧
      ∀ id₀, s.id? key = some id₀ → id = id₀ := by
  have h := establish_spec key fresh s
  generalize establish key fresh s = o at h
  obtain ⟨result, s', log⟩ := o
  cases h with
  | found get hid => exact ⟨_, _, log, rfl, hs, hid, fun id₀ h₀ => Option.some.inj (hid.symm.trans h₀)⟩
  | minted get hid set =>
    exact ⟨fresh, _, log, rfl, hs, Store.id?_hold s key fresh, fun id₀ h₀ => nomatch hid.symm.trans h₀⟩
  | unread get => exact nomatch get.symm.trans (hs .get)
  | unwritten get hid set => exact nomatch set.symm.trans (hs .set)

/-- Where nothing is refused the id is forgotten. -/
theorem reset_unrefused (hs : s.Open) (key : String) :
    ∃ s' : Store, reset key s = ⟨.ok (), s', []⟩ ∧ s'.Open ∧ s'.id? key = none := by
  refine ⟨{ s with entries := s.entries.erase key }, ?_, hs, ?_⟩
  · rw [reset, Store.remove, Option.isNone_iff_eq_none.mp (hs .remove)]
  · rw [Store.id?, Entries.find?_erase_self]
    rfl

theorem adopt_unrefused (hs : s.Open) (hid : s.id? key = none) (id : SessionId) :
    (adopt key id s).result = .ok () ∧ (adopt key id s).store = s.hold key id := by
  have h := adopt_spec key id s
  generalize (adopt key id s).result = result, (adopt key id s).store = s' at h
  cases h with
  | again get h | other get h => exact nomatch hid.symm.trans h
  | stored => exact ⟨rfl, rfl⟩
  | unread get => exact nomatch get.symm.trans (hs .get)
  | unwritten get h set => exact nomatch set.symm.trans (hs .set)

/-! ## The id in force -/

/-- Ids are told that are in force afterwards, and the id that was in force still is. -/
structure Serves (key : String) (s : Store) (told : List SessionId) (s' : Store) : Prop where
  keeps : ∀ id, s.id? key = some id → s'.id? key = some id
  told : ∀ id ∈ told, s'.id? key = some id

/-- Nothing is told, and what is stored under the key stays. -/
theorem serves_of_id?_eq {s' : Store} (h : s'.id? key = s.id? key) : Serves key s [] s' :=
  ⟨fun _ hid => h.trans hid, fun _ hid => (List.not_mem_nil hid).elim⟩

theorem Established.serves {fresh : SessionId} {result : Except Error SessionId} {s' : Store}
    (h : Established key fresh s result s') : Serves key s result.toOption.toList s' := by
  cases h with
  | found get hid =>
    refine ⟨fun _ h => h, fun id h => ?_⟩
    obtain rfl := List.mem_singleton.mp h
    exact hid
  | minted get hid set =>
    refine ⟨fun id h => (nomatch hid.symm.trans h), fun id h => ?_⟩
    obtain rfl := List.mem_singleton.mp h
    exact Store.id?_hold s key id
  | unread | unwritten => exact serves_of_id?_eq rfl

/-- Whoever can read the store is told the id that is stored. -/
theorem establish_stored (hg : s.allows .get = true) (hid : s.id? key = some id) (fresh : SessionId) :
    (establish key fresh s).result = .ok id := by
  obtain ⟨log, hc⟩ := current_allowed hg key
  rw [establish, hc, hid]

theorem current_stored (hg : s.allows .get = true) (hid : s.id? key = some id) :
    (current key s).result = .ok (some id) := by
  obtain ⟨log, hc⟩ := current_allowed hg key
  rw [hc, hid]

theorem adopt_stored (hg : s.allows .get = true) (hid : s.id? key = some id) {other : SessionId} (hne : other ≠ id) :
    (adopt key other s).result = .error (.alreadyEstablished id.text other.text) := by
  obtain ⟨log, hc⟩ := current_allowed hg key
  rw [adopt, hc, hid]
  dsimp only
  rw [if_neg hne.symm]

inductive Ask
  /-- The id; `fresh` becomes it if there is none. -/
  | id (fresh : SessionId)
  | current
  | adopt (id : SessionId)
  | reset

namespace Ask

def after (key : String) (s : Store) : Ask → Store
  | .id fresh => (establish key fresh s).store
  | .current => (Identity.current key s).store
  | .adopt id => (Identity.adopt key id s).store
  | .reset => (Identity.reset key s).store

/-- The ids that are returned, or taken over. -/
def told (key : String) (s : Store) : Ask → List SessionId
  | .id fresh => (establish key fresh s).result.toOption.toList
  | .current => (Identity.current key s).result.toOption.join.toList
  | .adopt id => ((Identity.adopt key id s).result.toOption.map fun _ => id).toList
  | .reset => []

def forgets (key : String) (s : Store) : Ask → Bool
  | .reset => (Identity.reset key s).result.isOk
  | _ => false

end Ask

theorem current_serves (key : String) (s : Store) :
    Serves key s (current key s).result.toOption.join.toList (current key s).store := by
  cases hg : s.allows .get with
  | false =>
    obtain ⟨e, he⟩ := current_refused hg key
    rw [he]
    exact serves_of_id?_eq rfl
  | true =>
    obtain ⟨log, hc⟩ := current_allowed hg key
    rw [hc]
    exact ⟨fun _ h => h, fun id h => Option.mem_toList.mp h⟩

theorem adopt_serves (key : String) (id : SessionId) (s : Store) :
    Serves key s (((adopt key id s).result.toOption.map fun _ => id).toList) (adopt key id s).store := by
  have h := adopt_spec key id s
  generalize (adopt key id s).result = result, (adopt key id s).store = s' at h
  cases h with
  | again get hid =>
    refine ⟨fun _ h => h, fun id' h => ?_⟩
    obtain rfl := List.mem_singleton.mp h
    exact hid
  | stored get hid set =>
    refine ⟨fun id' h => (nomatch hid.symm.trans h), fun id' h => ?_⟩
    obtain rfl := List.mem_singleton.mp h
    exact Store.id?_hold s key id'
  | other | unread | unwritten => exact serves_of_id?_eq rfl

/-- Whatever is asked, only a reset that is not refused forgets the id. -/
theorem Ask.serves (key : String) (s : Store) (a : Ask) (h : a.forgets key s = false) :
    Serves key s (a.told key s) (a.after key s) := by
  cases a with
  | id fresh => exact (establish_spec key fresh s).serves
  | current => exact current_serves key s
  | adopt id => exact adopt_serves key id s
  | reset =>
    refine serves_of_id?_eq ?_
    have h' : (Identity.reset key s).result.isOk = false := h
    cases hr : (Identity.reset key s).result with
    | ok u =>
      rw [hr] at h'
      exact nomatch h'
    | error e => exact congrArg (Store.id? · key) (reset_refused hr)

end Identity

end Session

end Parley

import Parley.Proofs.Host.Requests

/-!
# One id for a session that is shared

The store of a chat may be used by others: any number of handles on the same session, which ask for the id, adopt one or
reset it, while calls are refused and other things are written. A handle keeps nothing of its own, so it does not matter
which of them is used (`Deal.handle`).

* `Deal.told`, `Deal.forgets`, `Deal.spares` : the ids that are told to someone, and what becomes of the one in force;
* `Deal.serves` : whatever is done, the id in force stays unless it is forgotten, and no other is told;
* `OneId`, `one_id` : between two resets one id is told to everyone.
-/

namespace Parley

open Session.Identity (Ask Serves serves_of_id?_eq)

/-- What is done to a chat, or by another handle on its session. -/
inductive Deal
  | chat (m : Host.Move)
  | handle (a : Ask)

/-! ## Moves of the chat -/

namespace Turn

variable {t : Turn Host Host.Move}

/-- The ids that a turn tells: those of the requests, and the one that was asked for. -/
def told (t : Turn Host Host.Move) : List SessionId :=
  t.requests.map Exchange.Request.session ++ t.outcome.answer.session?.toList

theorem told_eq_nil (hr : t.requests = []) (hs : t.outcome.answer.session? = none) : t.told = [] := by
  rw [told, hr, hs]
  rfl

/-- The session's id is forgotten. -/
def forgets (t : Turn Host Host.Move) : Bool :=
  match t.outcome.answer with
  | .reset (.ok _) => true
  | _ => false

theorem serves_of_told_nil {key : String} (ht : t.told = [])
    (hs : t.after.store.id? key = t.before.store.id? key) : Serves key t.before.store t.told t.after.store := by
  rw [ht]
  exact serves_of_id?_eq hs

/-- An exchange that is started asks for the id and tells it to the agent. -/
theorem serves_polled {p : Controller.Pending} (h : t.polled? = some p)
    (hs : t.outcome.answer.session? = none) :
    Serves t.before.config.sessionKey t.before.store t.told t.after.store := by
  obtain ⟨k, s, -, -, hh, hr, ha, -⟩ := handed h
  rw [told, hs, hr, ha]
  cases hh with
  | later _ keeps | refused _ _ _ keeps =>
    rw [keeps.requests, keeps.store]
    exact serves_of_id?_eq rfl
  | sent _ established requests =>
    rw [requests]
    exact established.serves

/-- Whatever the chat does, the id in force stays unless it is forgotten, and no other is told. -/
theorem serves (hw : ∀ value, t.move ≠ .write t.before.config.sessionKey value) (hf : t.forgets = false) :
    Serves t.before.config.sessionKey t.before.store t.told t.after.store := by
  cases t.acts with
  | submits aside chat =>
    refine serves_of_told_nil (told_eq_nil (requests_of_polled? aside.polled) aside.session) ?_
    rw [chat, (Controller.send_keeps t.before).2.1]
  | still aside _ store =>
    refine serves_of_told_nil (told_eq_nil (requests_of_polled? aside.polled) aside.session) ?_
    rw [store]
  | polls _ polled _ _ answer => exact serves_polled polled (congrArg Host.Answer.session? answer)
  | drops move | loads move | refuses move =>
    obtain ⟨h, m⟩ := t
    cases move
    exact serves_of_told_nil (told_eq_nil (requests_of_polled? rfl) rfl) rfl
  | @writes key value move =>
    obtain ⟨h, m⟩ := t
    cases move
    refine serves_of_told_nil (told_eq_nil (requests_of_polled? rfl) rfl) ?_
    have hne : h.chat.config.sessionKey ≠ key := fun he => hw value (he ▸ rfl)
    exact congrArg (Option.bind · SessionId.parse?) (Session.Entries.find?_put_of_ne hne h.chat.store.entries value)
  | asks move chat =>
    obtain ⟨h, m⟩ := t
    cases move
    have ht : Turn.told ⟨h, .sessionId⟩ = (h.chat.sessionId h.supply.fresh).result.toOption.toList := by
      rw [told, requests_of_polled? rfl]
      show (Host.Answer.session (h.chat.sessionId h.supply.fresh).result).session?.toList = _
      cases (h.chat.sessionId h.supply.fresh).result <;> rfl
    rw [ht, chat]
    exact Ask.serves h.chat.config.sessionKey h.chat.store (.id h.supply.fresh) rfl
  | resets move =>
    obtain ⟨h, m⟩ := t
    cases move
    have hk : Ask.forgets h.chat.config.sessionKey h.chat.store .reset = false := by
      have hr : (match Host.Answer.reset h.chat.resetSession.result with | .reset (.ok _) => true | _ => false) =
          false := hf
      show h.chat.resetSession.result.isOk = false
      cases hres : h.chat.resetSession.result with
      | ok =>
        rw [hres] at hr
        cases hr
      | error => rfl
    have hs := Ask.serves h.chat.config.sessionKey h.chat.store .reset hk
    rw [told_eq_nil (requests_of_polled? rfl) rfl]
    exact hs

end Turn

/-! ## Deals -/

namespace Deal

def step (h : Host) : Deal → Host
  | .chat m => h.next m
  | .handle a =>
    { h with chat := { h.chat with store := a.after h.chat.config.sessionKey h.chat.store } }

def told (h : Host) : Deal → List SessionId
  | .chat m => Turn.told ⟨h, m⟩
  | .handle a => a.told h.chat.config.sessionKey h.chat.store

/-- The session's id is forgotten. -/
def forgets (h : Host) : Deal → Bool
  | .chat m => Turn.forgets ⟨h, m⟩
  | .handle a => a.forgets h.chat.config.sessionKey h.chat.store

/-- Nothing else is written under a key. -/
def spares (key : String) : Deal → Bool
  | .chat (.write other _) => other != key
  | _ => true

theorem config_step (h : Host) (d : Deal) : (d.step h).chat.config = h.chat.config := by
  cases d with
  | chat m =>
    obtain ⟨deed, hd⟩ := Turn.comes ⟨h, m⟩
    exact hd.does.settings.1
  | handle a => rfl

theorem config_foldl (h : Host) (ds : List Deal) : (ds.foldl step h).chat.config = h.chat.config := by
  induction ds generalizing h with
  | nil => rfl
  | cons d ds ih => exact (ih (d.step h)).trans (config_step h d)

/-- Whatever is done, the id in force stays unless it is forgotten, and no other is told. -/
theorem serves (h : Host) (d : Deal) (hw : d.spares h.chat.config.sessionKey = true) (hf : d.forgets h = false) :
    Serves h.chat.config.sessionKey h.chat.store (d.told h) (d.step h).chat.store := by
  cases d with
  | chat m =>
    refine Turn.serves (t := ⟨h, m⟩) (fun value he => ?_) hf
    obtain rfl : m = .write h.chat.config.sessionKey value := he
    exact bne_iff_ne.mp hw rfl
  | handle a => exact a.serves h.chat.config.sessionKey h.chat.store hf

end Deal

/-! ## Between two resets -/

/-- One id is told to everyone, and stays in force. -/
structure OneId (key : String) (ts : List (Turn Host Deal)) : Prop where
  same : ∀ t ∈ ts, ∀ u ∈ ts, ∀ id ∈ t.move.told t.state, ∀ id' ∈ u.move.told u.state, id = id'
  /-- Once told it is stored, through resets that are refused, too. -/
  stored : ∀ as t bs, ts = as ++ t :: bs → ∀ id ∈ t.move.told t.state, ∀ u ∈ t :: bs,
    (u.move.step u.state).chat.store.entries.find? key = some id.text
  /-- Whoever asks and can read the store is told it. -/
  answered : ∀ as t bs, ts = as ++ t :: bs → ∀ id ∈ t.move.told t.state, ∀ u ∈ bs,
    u.state.chat.store.allows .get = true →
      (u.move = .chat .sessionId → (u.state.step .sessionId).answer = .session (.ok id)) ∧
      (∀ fresh, u.move = .handle (.id fresh) →
        (Session.Identity.establish key fresh u.state.chat.store).result = .ok id) ∧
      (u.move = .handle .current → (Session.Identity.current key u.state.chat.store).result = .ok (some id))
  /-- No other can be adopted. -/
  refused : ∀ as t bs, ts = as ++ t :: bs → ∀ id ∈ t.move.told t.state, ∀ u ∈ bs,
    u.state.chat.store.allows .get = true → ∀ other, u.move = .handle (.adopt other) → other ≠ id →
      (Session.Identity.adopt key other u.state.chat.store).result =
        .error (.alreadyEstablished id.text other.text)

/-- An id is in force during a turn, and no other is told. -/
structure InForce (key : String) (id : SessionId) (t : Turn Host Deal) : Prop where
  sessionKey : t.state.chat.config.sessionKey = key
  before : t.state.chat.store.id? key = some id
  after : (t.move.step t.state).chat.store.id? key = some id
  told : ∀ id' ∈ t.move.told t.state, id' = id

/-- Nothing else is written under the key, and no reset succeeds. -/
structure Calm (key : String) (ts : List (Turn Host Deal)) : Prop where
  spares : ∀ t ∈ ts, t.move.spares key = true
  forgets : ∀ t ∈ ts, t.move.forgets t.state = false

section Stretch
variable {key : String} {id : SessionId}

theorem inForce_list {h : Host} {ds : List Deal} (hk : h.chat.config.sessionKey = key)
    (hc : Calm key (Turn.list Deal.step h ds)) (hid : h.chat.store.id? key = some id) :
    ∀ t ∈ Turn.list Deal.step h ds, InForce key id t := by
  induction ds generalizing h with
  | nil =>
    intro t ht
    exact (List.not_mem_nil ht).elim
  | cons d ds ih =>
    subst hk
    have hs := Deal.serves h d (hc.spares ⟨h, d⟩ List.mem_cons_self) (hc.forgets ⟨h, d⟩ List.mem_cons_self)
    have hafter := hs.keeps id hid
    intro t ht
    rcases List.mem_cons.mp ht with rfl | ht
    · refine ⟨rfl, hid, hafter, fun id' hid' => ?_⟩
      exact Option.some.inj ((hs.told id' hid').symm.trans hafter)
    · refine ih (congrArg Config.sessionKey (Deal.config_step h d)) ⟨?_, ?_⟩ hafter t ht
      · exact fun u hu => hc.spares u (List.mem_cons_of_mem _ hu)
      · exact fun u hu => hc.forgets u (List.mem_cons_of_mem _ hu)

theorem inForce_of_told {h : Host} {ds : List Deal} (hk : h.chat.config.sessionKey = key)
    (hc : Calm key (Turn.list Deal.step h ds)) {as bs : List (Turn Host Deal)} {t : Turn Host Deal}
    (hsplit : Turn.list Deal.step h ds = as ++ t :: bs) (hid : id ∈ t.move.told t.state) :
    (t.move.step t.state).chat.store.id? key = some id ∧ ∀ u ∈ bs, InForce key id u := by
  obtain ⟨ms₁, ms₂, -, ht, rfl⟩ := Turn.list_at Deal.step hsplit
  rw [hsplit] at hc
  have hkey : t.state.chat.config.sessionKey = key := by
    rw [ht, Deal.config_foldl, hk]
  have hmem : t ∈ as ++ t :: Turn.list Deal.step (Deal.step t.state t.move) ms₂ :=
    List.mem_append_right _ List.mem_cons_self
  have hserves := Deal.serves t.state t.move (hkey ▸ hc.spares t hmem) (hc.forgets t hmem)
  rw [hkey] at hserves
  have hafter := hserves.told id hid
  refine ⟨hafter, inForce_list ?_ ⟨?_, ?_⟩ hafter⟩
  · exact (congrArg Config.sessionKey (Deal.config_step t.state t.move)).trans hkey
  · exact fun u hu => hc.spares u (List.mem_append_right _ (List.mem_cons_of_mem _ hu))
  · exact fun u hu => hc.forgets u (List.mem_append_right _ (List.mem_cons_of_mem _ hu))

end Stretch

theorem mem_split_two {α : Type} {l : List α} {t u : α} (ht : t ∈ l) (hu : u ∈ l) :
    (∃ as bs, l = as ++ t :: bs ∧ u ∈ t :: bs) ∨ ∃ as bs, l = as ++ u :: bs ∧ t ∈ u :: bs := by
  obtain ⟨as, bs, rfl⟩ := List.append_of_mem ht
  rcases List.mem_append.mp hu with hu | hu
  · obtain ⟨as', bs', rfl⟩ := List.append_of_mem hu
    refine .inr ⟨as', bs' ++ t :: bs, List.append_assoc _ _ _, ?_⟩
    exact List.mem_cons_of_mem _ (List.mem_append_right _ List.mem_cons_self)
  · exact .inl ⟨as, bs, rfl, hu⟩

/-- Whoever is told an id in the same turn or later is told the same. -/
theorem told_later {key : String} {h : Host} {ds : List Deal} (hk : h.chat.config.sessionKey = key)
    (hc : Calm key (Turn.list Deal.step h ds)) {as bs : List (Turn Host Deal)} {t u : Turn Host Deal}
    (hsplit : Turn.list Deal.step h ds = as ++ t :: bs) (hu : u ∈ t :: bs) {id id' : SessionId}
    (hid : id ∈ t.move.told t.state) (hid' : id' ∈ u.move.told u.state) : id = id' := by
  obtain ⟨hafter, hbs⟩ := inForce_of_told hk hc hsplit hid
  rcases List.mem_cons.mp hu with rfl | hu
  · obtain ⟨hafter', -⟩ := inForce_of_told hk hc hsplit hid'
    exact Option.some.inj (hafter.symm.trans hafter')
  · exact ((hbs u hu).told id' hid').symm

/-- Between two resets one id is told to everyone, whatever the store refuses meanwhile. -/
theorem one_id (h : Host) (ds : List Deal) {ts stretch us : List (Turn Host Deal)}
    (split : Turn.list Deal.step h ds = ts ++ (stretch ++ us))
    (calm : Calm h.chat.config.sessionKey stretch) : OneId h.chat.config.sessionKey stretch := by
  obtain ⟨ds₁, ds₂, -, -, hrest⟩ := Turn.list_split Deal.step split
  obtain ⟨ds₃, ds₄, -, rfl, -⟩ := Turn.list_split Deal.step hrest.symm
  have hk : (ds₁.foldl Deal.step h).chat.config.sessionKey = h.chat.config.sessionKey :=
    congrArg Config.sessionKey (Deal.config_foldl h ds₁)
  refine ⟨?_, ?_, ?_, ?_⟩
  · intro t ht u hu id hid id' hid'
    rcases mem_split_two ht hu with ⟨as, bs, hsplit, hu⟩ | ⟨as, bs, hsplit, ht⟩
    · exact told_later hk calm hsplit hu hid hid'
    · exact (told_later hk calm hsplit ht hid' hid).symm
  · intro as t bs hsplit id hid u hu
    obtain ⟨hafter, hbs⟩ := inForce_of_told hk calm hsplit hid
    rcases List.mem_cons.mp hu with rfl | hu
    · exact Session.Store.id?_eq_some.mp hafter
    · exact Session.Store.id?_eq_some.mp (hbs u hu).after
  · intro as t bs hsplit id hid u hu hget
    have hforce := (inForce_of_told hk calm hsplit hid).2 u hu
    refine ⟨fun _ => ?_, fun fresh _ => ?_, fun _ => ?_⟩
    · have hr := Session.Identity.establish_stored hget hforce.before u.state.supply.fresh
      rw [← hforce.sessionKey] at hr
      exact congrArg Host.Answer.session hr
    · exact Session.Identity.establish_stored hget hforce.before fresh
    · exact Session.Identity.current_stored hget hforce.before
  · intro as t bs hsplit id hid u hu hget other _ hne
    have hforce := (inForce_of_told hk calm hsplit hid).2 u hu
    exact Session.Identity.adopt_stored hget hforce.before hne

/-- A chat with nothing said yet, whose store is empty. -/
def blankHost : Host :=
  .start (.start .standard .plain (.ofEntries []) {}) ⟨[], [], .failure (.transport "send" "/chat" "offline")⟩
    ⟨fun _ => .ofOctets (.replicate 8 0), 0⟩

/-- The id is asked for, a reset is refused, and another handle reads the id. -/
def refusedReset : List Deal :=
  [.chat .sessionId, .chat (.refuse fun _ => some ⟨"remove", "read only"⟩), .handle .reset,
    .chat (.refuse fun _ => none), .handle .current]

theorem one_id_refusedReset : Calm blankHost.chat.config.sessionKey (Turn.list Deal.step blankHost refusedReset) ∧
    OneId blankHost.chat.config.sessionKey (Turn.list Deal.step blankHost refusedReset) := by
  have split : Turn.list Deal.step blankHost refusedReset =
      [] ++ (Turn.list Deal.step blankHost refusedReset ++ []) := (List.append_nil _).symm
  have calm : Calm blankHost.chat.config.sessionKey (Turn.list Deal.step blankHost refusedReset) := by
    refine ⟨fun t ht => ?_, fun t ht => ?_⟩
    all_goals
      simp only [refusedReset, Turn.list, List.mem_cons, List.not_mem_nil, or_false] at ht
      rcases ht with rfl | rfl | rfl | rfl | rfl <;> rfl
  exact ⟨calm, one_id blankHost refusedReset split calm⟩

end Parley

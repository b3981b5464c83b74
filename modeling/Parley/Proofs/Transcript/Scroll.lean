import Parley.Proofs.Runs
import Parley.Transcript.Basic

/-!
# Scroll requests coalesce

Requests are made and applied in any order, while the surface changes at any time.

* `Surface` : what a surface reports, and what a call does to it;
* `Scene`, `Move`, `Move.outcome` : requests beside their surface, what happens to them, and what comes of it;
* `Outstanding`, `called` : whether something was asked for and not done yet, and the calls on the surface, by the moves,
  answers and calls so far; `outstanding_concat`, `called_concat` : one more turn;
* `Recounts`, `Recounts.turn` : what is kept is in step with the turns, and stays so;
* `Coalesces`, `requests_coalesce` : what is answered, called and kept in every run;
* `Act`, `acts_moves` : what is done with a transcript is moves of its requests; `acts_settle` : none is left over.
-/

namespace Parley.Transcript

/-- What a surface reports, and what becomes of it when it is called. -/
structure Surface (σ : Type) where
  metrics : σ → Metrics
  apply : σ → ViewCall → σ

def View.surface : Surface View := ⟨View.metrics, View.apply⟩

namespace Scroll

/-- What is kept of requests, and the surface that they are about. -/
structure Scene (σ : Type) where
  scroll : Scroll := {}
  surface : σ

inductive Move (σ : Type)
  | request
  | apply
  /-- Whatever else happens to the surface. -/
  | change (surface : σ)

structure Outcome (σ : Type) where
  /-- Whether the surface was scrolled, where that is answered. -/
  answer : Option Bool := none
  calls : List ViewCall := []
  scene : Scene σ

section
variable {σ : Type} (S : Surface σ)

def Move.outcome (s : Scene σ) : Move σ → Outcome σ
  | request => { scene := { s with scroll := s.scroll.request } }
  | apply =>
    let r := s.scroll.apply (S.metrics s.surface)
    let calls := r.1.toList.map ViewCall.scrollTo
    ⟨some r.1.isSome, calls, r.2, calls.foldl S.apply s.surface⟩
  | change surface => { scene := { s with surface } }

def next (s : Scene σ) (m : Move σ) : Scene σ := (m.outcome S s).scene

def comes (t : Turn (Scene σ) (Move σ)) : Outcome σ := t.move.outcome S t.state

/-- The turns of a run that starts with nothing asked for. -/
def turns (v : σ) (ms : List (Move σ)) : List (Turn (Scene σ) (Move σ)) := Turn.list (next S) { surface := v } ms

def finish (v : σ) (ms : List (Move σ)) : Scene σ := ms.foldl (next S) { surface := v }

/-! ## The history -/

/-- A request was made, and no `apply` has scrolled the surface since. -/
def Outstanding (ts : List (Turn (Scene σ) (Move σ))) : Prop :=
  ∃ as r bs, ts = as ++ r :: bs ∧ r.move = .request ∧ ∀ t ∈ bs, (comes S t).answer ≠ some true

def called (ts : List (Turn (Scene σ) (Move σ))) : List ViewCall := ts.flatMap fun t => (comes S t).calls

theorem turns_concat (v : σ) (ms : List (Move σ)) (m : Move σ) :
    turns S v (ms ++ [m]) = turns S v ms ++ [⟨finish S v ms, m⟩] :=
  Turn.list_append (next S) _ ms [m]

theorem finish_concat (v : σ) (ms : List (Move σ)) (m : Move σ) :
    finish S v (ms ++ [m]) = next S (finish S v ms) m :=
  List.foldl_append

variable {S} {s : Scene σ} {ts : List (Turn (Scene σ) (Move σ))} {t : Turn (Scene σ) (Move σ)}

theorem called_concat (ts : List (Turn (Scene σ) (Move σ))) (t : Turn (Scene σ) (Move σ)) :
    called S (ts ++ [t]) = called S ts ++ (comes S t).calls := by
  rw [called, List.flatMap_append, List.flatMap_singleton]
  rfl

theorem not_outstanding_nil : ¬ Outstanding S [] := by
  rintro ⟨as, r, bs, h, -⟩
  simp at h

/-- A request is outstanding until the surface is scrolled. -/
theorem outstanding_concat (ts : List (Turn (Scene σ) (Move σ))) (t : Turn (Scene σ) (Move σ)) :
    Outstanding S (ts ++ [t]) ↔ t.move = .request ∨ Outstanding S ts ∧ (comes S t).answer ≠ some true := by
  constructor
  · rintro ⟨as, r, bs, hts, hr, hbs⟩
    rcases List.eq_nil_or_concat bs with rfl | ⟨cs, u, rfl⟩
    · obtain ⟨-, hlast⟩ := List.append_inj' hts rfl
      obtain rfl := List.singleton_inj.mp hlast
      exact .inl hr
    · have hsplit : ts ++ [t] = (as ++ r :: cs) ++ [u] := by simpa using hts
      obtain ⟨rfl, hlast⟩ := List.append_inj' hsplit rfl
      obtain rfl := List.singleton_inj.mp hlast
      exact .inr ⟨⟨as, r, cs, rfl, hr, fun t ht => hbs t (by simp [ht])⟩, hbs t (by simp)⟩
  · rintro (hr | ⟨⟨as, r, bs, rfl, hr, hbs⟩, ht⟩)
    · exact ⟨ts, t, [], rfl, hr, nofun⟩
    · refine ⟨as, r, bs ++ [t], by simp, hr, fun u hu => ?_⟩
      rcases List.mem_append.mp hu with hu | hu
      · exact hbs u hu
      · obtain rfl := List.mem_singleton.mp hu
        exact ht

/-! ## One turn -/

theorem outcome_pending (h : s.scroll.pending = true) :
    Move.apply.outcome S s = ⟨some true, [.scrollTo (S.metrics s.surface).bottom],
      ⟨false, some (S.metrics s.surface).bottom⟩,
      S.apply s.surface (.scrollTo (S.metrics s.surface).bottom)⟩ := by
  simp [Move.outcome, apply, h]

theorem outcome_idle (h : s.scroll.pending = false) : Move.apply.outcome S s = ⟨some false, [], s⟩ := by
  simp [Move.outcome, apply, h]

variable (S) in
/-- What is kept of requests is in step with the turns. -/
structure Recounts (ts : List (Turn (Scene σ) (Move σ))) (s : Scene σ) : Prop where
  pending : s.scroll.pending = true ↔ Outstanding S ts
  lastOffset : s.scroll.lastOffset.map ViewCall.scrollTo = (called S ts).getLast?

theorem recounts_start (v : σ) : Recounts S [] { surface := v } :=
  ⟨⟨nofun, fun h => absurd h not_outstanding_nil⟩, rfl⟩

theorem Recounts.turn (h : Recounts S ts t.state) : Recounts S (ts ++ [t]) (next S t.state t.move) := by
  obtain ⟨s, m⟩ := t
  have hpending : s.scroll.pending = true ↔ Outstanding S ts := h.pending
  refine ⟨?_, ?_⟩
  · rw [outstanding_concat, ← hpending]
    cases m with
    | request => simp [next, Move.outcome, request]
    | change v => simp [next, comes, Move.outcome]
    | apply =>
      cases hp : s.scroll.pending with
      | true => simp [next, comes, outcome_pending hp]
      | false => simp [next, comes, outcome_idle hp, hp]
  · rw [called_concat]
    cases m with
    | request | change => simpa [next, comes, Move.outcome, request] using h.lastOffset
    | apply =>
      cases hp : s.scroll.pending with
      | true => simp [next, comes, outcome_pending hp]
      | false => simpa [next, comes, outcome_idle hp] using h.lastOffset

theorem recounts (v : σ) (ms : List (Move σ)) : Recounts S (turns S v ms) (finish S v ms) :=
  Turn.run_induction (next S) (recounts_start v) (fun _ _ h => h.turn) ms

/-! ## Runs -/

variable (S) in
/-- What comes of an `apply` after the turns `ts`. -/
structure Applies (ts : List (Turn (Scene σ) (Move σ))) (t : Turn (Scene σ) (Move σ)) : Prop where
  scrolls : (comes S t).answer = some true ↔ Outstanding S ts
  idles : (comes S t).answer = some false ↔ ¬ Outstanding S ts
  /-- There is one call, to the end as the surface reports it now. -/
  current : (comes S t).answer = some true →
    (comes S t).calls = [.scrollTo (S.metrics t.state.surface).bottom] ∧
    (comes S t).scene.surface = S.apply t.state.surface (.scrollTo (S.metrics t.state.surface).bottom)
  unchanged : (comes S t).answer = some false → (comes S t).calls = [] ∧ (comes S t).scene = t.state

theorem Recounts.applies (h : Recounts S ts t.state) (ht : t.move = .apply) : Applies S ts t := by
  obtain ⟨s, m⟩ := t
  obtain rfl : m = .apply := ht
  have hpending : s.scroll.pending = true ↔ Outstanding S ts := h.pending
  cases hp : s.scroll.pending with
  | true =>
    have hout : Outstanding S ts := hpending.mp hp
    have hcomes : comes S ⟨s, .apply⟩ = _ := outcome_pending hp
    refine ⟨?_, ?_, ?_, ?_⟩ <;> rw [hcomes]
    · simp [hout]
    · simp [hout]
    · exact fun _ => ⟨rfl, rfl⟩
    · exact nofun
  | false =>
    have hout : ¬ Outstanding S ts := fun h => Bool.false_ne_true (hp.symm.trans (hpending.mpr h))
    have hcomes : comes S ⟨s, .apply⟩ = _ := outcome_idle hp
    refine ⟨?_, ?_, ?_, ?_⟩ <;> rw [hcomes]
    · simp [hout]
    · simp [hout]
    · exact nofun
    · exact fun _ => ⟨rfl, rfl⟩

variable (S) in
/-- What is answered, called and kept in a run that starts on the surface `v`. -/
structure Coalesces (v : σ) (ms : List (Move σ)) : Prop where
  applies : ∀ ts t us, turns S v ms = ts ++ t :: us → t.move = .apply → Applies S ts t
  /-- Nothing else scrolls the surface. -/
  silent : ∀ t ∈ turns S v ms, t.move ≠ .apply → (comes S t).calls = []
  pending : (finish S v ms).scroll.pending = true ↔ Outstanding S (turns S v ms)
  /-- The offset that is kept is that of the last call. -/
  lastOffset : (finish S v ms).scroll.lastOffset.map ViewCall.scrollTo = (called S (turns S v ms)).getLast?

/-- However requests are made and applied while the surface changes, all that are outstanding are done by one scroll. -/
theorem requests_coalesce (S : Surface σ) (v : σ) (ms : List (Move σ)) : Coalesces S v ms where
  applies ts t us h ht := by
    obtain ⟨ms₁, -, rfl, hstate, -⟩ := Turn.list_at (next S) h
    have hrecounts : Recounts S (turns S v ms₁) t.state := hstate ▸ recounts v ms₁
    exact hrecounts.applies ht
  silent t _ ht := by
    unfold comes
    cases hm : t.move with
    | request | change => rfl
    | apply => exact absurd hm ht
  pending := (recounts v ms).pending
  lastOffset := (recounts v ms).lastOffset

/-- Two requests make one call, to the end as it is when they are applied. -/
example (v v' : View) :
    (turns View.surface v [.request, .request, .change v', .apply, .apply]).map (fun t => (comes View.surface t).calls) =
      [[], [], [], [.scrollTo v'.metrics.bottom], []] := rfl

end

end Scroll

/-! ## Transcripts -/

/-- What is done with a transcript, and what happens to its surface. -/
inductive Act
  | push (role : Role) (body : Body) (exchange : Option Exchange.Id)
  | scrollToBottom
  | change (view : View)

/-- The transcript afterwards, and the calls on its surface. -/
def Act.outcome (t : Transcript) : Act → Transcript × List ViewCall
  | push role body exchange => t.push role body exchange
  | scrollToBottom => t.scrollToBottom
  | change view => ({ t with view }, [])

def Act.next (t : Transcript) (a : Act) : Transcript := (a.outcome t).1

def ViewCall.isScroll : ViewCall → Bool
  | render _ => false
  | scrollTo _ => true

def scrolls (ts : List (Turn Transcript Act)) : List ViewCall :=
  ts.flatMap fun t => (t.move.outcome t.state).2.filter ViewCall.isScroll

theorem scrolls_concat (ts : List (Turn Transcript Act)) (t : Turn Transcript Act) :
    scrolls (ts ++ [t]) = scrolls ts ++ (t.move.outcome t.state).2.filter ViewCall.isScroll := by
  rw [scrolls, List.flatMap_append, List.flatMap_singleton]
  rfl

open Scroll in
/-- What is done with a transcript is moves of its requests, of which each is applied at once. -/
theorem acts_moves (v : View) (acts : List Act) :
    ∃ ms, finish View.surface v ms =
        ⟨(acts.foldl Act.next { view := v }).scroll, (acts.foldl Act.next { view := v }).view⟩ ∧
      called View.surface (turns View.surface v ms) = scrolls (Turn.list Act.next { view := v } acts) ∧
      ¬ Outstanding View.surface (turns View.surface v ms) := by
  refine Turn.run_induction Act.next (P := fun ts t => ∃ ms, finish View.surface v ms = ⟨t.scroll, t.view⟩ ∧
    called View.surface (turns View.surface v ms) = scrolls ts ∧
    ¬ Outstanding View.surface (turns View.surface v ms)) ⟨[], rfl, rfl, not_outstanding_nil⟩ ?_ acts
  rintro ts ⟨t, a⟩ ⟨ms, hfinish, hcalled, hout⟩
  have hchange : ∀ v', ¬ Outstanding View.surface (turns View.surface v (ms ++ [.change v'])) := fun v' => by
    rw [turns_concat, outstanding_concat]
    simp [hout]
  cases a with
  | push role body exchange =>
    refine ⟨ms ++ [.change (t.view.apply (.render ⟨t.nextId, role, body, exchange⟩))], ?_, ?_, hchange _⟩
    · rw [finish_concat, hfinish]
      rfl
    · rw [turns_concat, called_concat, hcalled, scrolls_concat]
      rfl
  | change view =>
    refine ⟨ms ++ [.change view], ?_, ?_, hchange _⟩
    · rw [finish_concat, hfinish]
      rfl
    · rw [turns_concat, called_concat, hcalled, scrolls_concat]
      rfl
  | scrollToBottom =>
    refine ⟨ms ++ [.request] ++ [.apply], ?_, ?_, ?_⟩
    · rw [finish_concat, finish_concat, hfinish]
      rfl
    · rw [turns_concat, turns_concat, called_concat, called_concat, finish_concat, hfinish, hcalled, scrolls_concat,
        List.append_assoc]
      rfl
    · rw [turns_concat, outstanding_concat, finish_concat, hfinish]
      rintro (h | ⟨-, h⟩)
      · exact nomatch h
      · exact h rfl

/-- Whatever is done with a transcript, no request is left over, and the offset that it keeps is that of the last
scroll. -/
theorem acts_settle (v : View) (acts : List Act) :
    (acts.foldl Act.next { view := v }).scroll.pending = false ∧
    (acts.foldl Act.next { view := v }).scroll.lastOffset.map ViewCall.scrollTo =
      (scrolls (Turn.list Act.next { view := v } acts)).getLast? := by
  obtain ⟨ms, hfinish, hcalled, hout⟩ := acts_moves v acts
  have h := Scroll.recounts (S := View.surface) v ms
  rw [hfinish] at h
  refine ⟨Bool.eq_false_iff.mpr fun hp => hout (h.pending.mp hp), ?_⟩
  rw [← hcalled]
  exact h.lastOffset

end Parley.Transcript

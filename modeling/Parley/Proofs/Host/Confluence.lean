import Mathlib.Data.List.Nodup
import Mathlib.Data.List.Perm.Basic
import Parley.Proofs.Host.Schedule

/-!
# The order of polling does not matter

* `Schedule.SameWork` : in two schedules the same is sent, and the same exchanges are started and come to their end;
* `Schedule.Agree` : both come to the same but for where the replies stand;
* `Schedule.agree` : whoever does the same work agrees.
-/

namespace Parley

open Controller (Pending Reply)
open Transcript (Entry Role Body)

/-! ## Lists with keys -/

section Keys
variable {β : Type} {l l' : List (Nat × β)}

/-- Lists with the same keys, each once, and the same values under them, differ at most in their order. -/
theorem perm_of_keys (hl : (l.map Prod.fst).Nodup) (hl' : (l'.map Prod.fst).Nodup)
    (keys : ∀ i, i ∈ l'.map Prod.fst ↔ i ∈ l.map Prod.fst)
    (values : ∀ e ∈ l, ∀ e' ∈ l', e'.1 = e.1 → e' = e) : l'.Perm l := by
  refine (List.perm_ext_iff_of_nodup hl'.of_map hl.of_map).mpr fun e => ⟨fun he => ?_, fun he => ?_⟩
  · obtain ⟨e₀, he₀, hi⟩ := List.mem_map.mp ((keys e.1).mp (List.mem_map_of_mem he))
    exact values e₀ he₀ e he hi.symm ▸ he₀
  · obtain ⟨e', he', hi⟩ := List.mem_map.mp ((keys e.1).mpr (List.mem_map_of_mem he))
    exact values e he e' he' hi ▸ he'

theorem filter_key_eq (hl : (l.map Prod.fst).Nodup) (h : l'.Perm l) (i : Nat) :
    l'.filter (fun e => e.1 = i) = l.filter fun e => e.1 = i := by
  have hp := h.filter fun e => decide (e.1 = i)
  have hn : ((l.filter fun e => e.1 = i).map Prod.fst).Nodup := hl.sublist (List.filter_sublist.map _)
  have hi : ∀ e ∈ l.filter (fun e => e.1 = i), e.1 = i := fun e he => of_decide_eq_true (List.mem_filter.mp he).2
  generalize l'.filter (fun e => decide (e.1 = i)) = m', l.filter (fun e => decide (e.1 = i)) = m at hp hn hi
  match m with
  | [] => exact hp.eq_nil
  | [e] => exact List.perm_singleton.mp hp
  | e :: e' :: m =>
    have he : e.1 = e'.1 := (hi e List.mem_cons_self).trans (hi e' (List.mem_cons_of_mem _ List.mem_cons_self)).symm
    exact absurd (he ▸ List.mem_cons_self) (List.nodup_cons.mp hn).1

/-- Lists of pairs are given by their first and second parts. -/
theorem eq_of_map_fst_snd {α : Type} {l l' : List (α × β)} (hfst : l'.map Prod.fst = l.map Prod.fst)
    (hsnd : l'.map Prod.snd = l.map Prod.snd) : l' = l := by
  rw [← List.zip_unzip l', ← List.zip_unzip l, List.unzip_eq_map, List.unzip_eq_map, hfst, hsnd]

theorem eq_of_perm_of_forall_eq {α : Type} {l l' : List α} {a : α} (h : l'.Perm l) (hl : ∀ x ∈ l, x = a) : l' = l := by
  rw [List.eq_replicate_of_mem hl, List.eq_replicate_of_mem fun x hx => hl x (h.mem_iff.mp hx), h.length_eq]

end Keys

/-- The counter of exchanges in flight is a matter of their states. -/
theorem Exchange.Tracker.inFlight_eq {t t' : Tracker} (hn : t.Numbered) (hn' : t'.Numbered) (hb : t.Balanced)
    (hb' : t'.Balanced) (started : t'.started = t.started) (states : ∀ i, t'.state? i = t.state? i) :
    t'.inFlight = t.inFlight := by
  rw [hb, hb', hn.count_eq, hn'.count_eq, started]
  exact List.countP_congr fun i _ => by rw [states i]

namespace Host.Schedule
variable {r : Run}

/-- In two schedules the same texts are sent in order, the same exchanges are started, and the same of them come to
their end. -/
structure SameWork (s s' : Schedule r) : Prop where
  typed : s'.typed = s.typed
  started : ∀ i, i ∈ s'.started ↔ i ∈ s.started
  ended : ∀ i, i ∈ s'.ended ↔ i ∈ s.ended

/-- Two schedules come to the same, but for where the replies stand in the transcript. -/
structure Agree (s s' : Schedule r) : Prop where
  states : ∀ i, s'.finish.exchangeState? i = s.finish.exchangeState? i
  inFlight : s'.finish.inFlight = s.finish.inFlight
  store : s'.finish.store = s.finish.store
  notices : s'.turns.flatMap Turn.notices = s.turns.flatMap Turn.notices
  requests : (s'.turns.flatMap Turn.requests).Perm (s.turns.flatMap Turn.requests)
  /-- What the user said stands in the same order. -/
  users : Run.userSayings (s'.finish.transcript.entries.map Entry.said) =
    Run.userSayings (s.finish.transcript.entries.map Entry.said)
  /-- The entries of an exchange stand in the same order. -/
  tagged : ∀ i, Run.sayingsOf i (s'.finish.transcript.entries.map Entry.said) =
    Run.sayingsOf i (s.finish.transcript.entries.map Entry.said)
  /-- What is added are the same blocks, in whatever order: the user's entries, and the replies with their empty
  lines. -/
  said : ∀ q ∈ [s, s'], q.finish.transcript.entries.map Entry.said =
    r.chat.transcript.entries.map Entry.said ++ (blocksIn q.turns).flatten
  blocks : (blocksIn s'.turns).Perm (blocksIn s.turns)
  block : ∀ b ∈ blocksIn s.turns, (∃ text i, b = [(.user, .text text, some i)]) ∨
    ∃ markup i, b = [(.bot, .markup markup, some i), (.spacer, .empty, some i)]

section Course
variable {f : Exchange.Request → Except Exchange.Error Json.Value} {id : SessionId} {s s' : Schedule r}

theorem typed_eq (s : Schedule r) : (openedIn s.turns).map Prod.snd = s.typed := by
  have hf : (fun t : Turn Host Move => (t.opened?.map Pending.core).map Prod.snd) =
      fun t => t.submitted?.filter fun text => !Text.isBlankText text := by
    funext t
    rw [← Turn.opened?_input, Option.map_map]
    rfl
  rw [openedIn, List.map_filterMap, hf, typed, List.filter_filterMap]

theorem started_eq (s : Schedule r) : (startedIn s.turns).map Prod.fst = s.started := by
  rw [startedIn, List.map_filterMap]
  refine congrArg (List.filterMap · _) (funext fun t => ?_)
  rw [Option.map_map]
  rfl

theorem ended_eq (s : Schedule r) : (endedIn s.turns).map Prod.fst = s.ended := by
  rw [endedIn, List.map_filterMap]
  rfl

/-- Exchanges are numbered in the order in which they are made. -/
theorem Course.keys {ts : List (Turn Host Move)} {c : Controller} (h : Course r f id ts c) :
    (c.pending.map Pending.core).map Prod.fst = List.range' 1 (r.chat.pending.length + (openedIn ts).length) := by
  have hx : c.pending.map Pending.exchange = List.range' 1 c.tracker.started := h.along.steady.sound.exchanges
  have hlength := congrArg List.length hx
  have hcores := congrArg List.length h.along.cores
  rw [List.length_map, List.length_range'] at hlength
  rw [List.length_map, List.length_append, List.length_map] at hcores
  rw [List.map_map, ← hcores, hlength]
  exact hx

theorem Course.cores_eq (h : Course r f id s.turns s.finish) (h' : Course r f id s'.turns s'.finish)
    (typed : s'.typed = s.typed) :
    s'.finish.pending.map Pending.core = s.finish.pending.map Pending.core := by
  have hsnd : (openedIn s'.turns).map Prod.snd = (openedIn s.turns).map Prod.snd := by
    rw [typed_eq, typed_eq, typed]
  refine eq_of_map_fst_snd ?_ ?_
  · have hlength := congrArg List.length hsnd
    rw [List.length_map, List.length_map] at hlength
    rw [h.keys, h'.keys, hlength]
  · rw [h.along.cores, h'.along.cores, List.map_append, List.map_append, hsnd]

/-- The exchanges made are found by their ids. -/
theorem Course.core_unique {ts : List (Turn Host Move)} {c : Controller} (h : Course r f id ts c)
    {core core' : Exchange.Id × String} (hm : core ∈ c.pending.map Pending.core)
    (hm' : core' ∈ c.pending.map Pending.core) (hi : core'.1 = core.1) : core' = core := by
  have hn : ((c.pending.map Pending.core).map Prod.fst).Nodup := h.keys ▸ List.nodup_range'
  exact List.inj_on_of_nodup_map hn hm' hm hi

theorem ended_perm (h : Course r f id s.turns s.finish) (h' : Course r f id s'.turns s'.finish)
    (hcores : s'.finish.pending.map Pending.core = s.finish.pending.map Pending.core)
    (ended : ∀ i, i ∈ s'.ended ↔ i ∈ s.ended) : (endedIn s'.turns).Perm (endedIn s.turns) := by
  rw [← ended_eq, ← ended_eq] at ended
  refine perm_of_keys h.ends.nodup h'.ends.nodup ended fun e he e' he' hi => ?_
  obtain ⟨core, hm, rfl⟩ := h.ends.ended e he
  obtain ⟨core', hm', rfl⟩ := h'.ends.ended e' he'
  rw [h.core_unique hm (hcores ▸ hm') hi]

theorem Course.started_nodup {ts : List (Turn Host Move)} {c : Controller} (h : Course r f id ts c) :
    ((startedIn ts).map Prod.fst).Nodup := by
  have honce := h.along.ledger.once
  rw [List.filterMap_append, List.map_append] at honce
  have hts := (List.nodup_append.mp honce).2.1
  have heq : (startedIn ts).map Prod.fst = (ts.filterMap Turn.starts?).map Pending.exchange := by
    rw [startedIn, List.map_filterMap, List.map_filterMap]
    refine congrArg (List.filterMap · _) (funext fun t => ?_)
    rw [Option.map_map]
    rfl
  rw [heq]
  exact hts

theorem started_perm (h : Course r f id s.turns s.finish) (h' : Course r f id s'.turns s'.finish)
    (hcores : s'.finish.pending.map Pending.core = s.finish.pending.map Pending.core)
    (started : ∀ i, i ∈ s'.started ↔ i ∈ s.started) : (startedIn s'.turns).Perm (startedIn s.turns) := by
  rw [← started_eq, ← started_eq] at started
  refine perm_of_keys h.started_nodup h'.started_nodup started fun e he e' he' hi => ?_
  exact h.core_unique (h.along.started e he) (hcores ▸ h'.along.started e' he') hi

/-- The state of an exchange tells whether it was made, and how it ended. -/
theorem states_eq (h : Course r f id s.turns s.finish) (h' : Course r f id s'.turns s'.finish)
    (opened : openedIn s'.turns = openedIn s.turns) (ended : (endedIn s'.turns).Perm (endedIn s.turns))
    (i : Exchange.Id) : s'.finish.exchangeState? i = s.finish.exchangeState? i := by
  have hkeys := ended.map Prod.fst
  by_cases hi : i ∈ (endedIn s.turns).map Prod.fst
  · obtain ⟨e, he, rfl⟩ := List.mem_map.mp hi
    rw [h.ends.settled e he, h'.ends.settled e (ended.mem_iff.mpr he)]
  · rw [h.ends.others i hi, h'.ends.others i fun hi' => hi (hkeys.mem_iff.mp hi'), opened]

theorem block_of_mem (h : Course r f id s.turns s.finish) {b : List Saying} (hb : b ∈ blocksIn s.turns) :
    (∃ text i, b = [(.user, .text text, some i)]) ∨
      ∃ markup i, b = [(.bot, .markup markup, some i), (.spacer, .empty, some i)] := by
  rcases List.mem_append.mp (h.tells.blocks.mem_iff.mp hb) with hb | hb
  · obtain ⟨core, -, rfl⟩ := List.mem_map.mp hb
    exact .inl ⟨_, _, rfl⟩
  · obtain ⟨hb, hne⟩ := List.mem_filter.mp hb
    obtain ⟨⟨i, x⟩, -, rfl⟩ := List.mem_map.mp hb
    cases x with
    | ok reply => exact .inr ⟨_, _, rfl⟩
    | error e => exact nomatch hne

end Course

/-- However polls are interleaved with what is sent and with each other, the same work comes to the same, as long as
the id is stored and the backend answers each request by what it asks for. -/
theorem agree {f : Exchange.Request → Except Exchange.Error Json.Value} {id : SessionId}
    (hs : r.chat.store.Holds r.chat.config.sessionKey id) {s s' : Schedule r} (h : s.Served f) (h' : s'.Served f)
    (same : SameWork s s') : Agree s s' := by
  have course := course hs h
  have course' := Schedule.course hs h'
  have hcores := course.cores_eq course' same.typed
  have opened : openedIn s'.turns = openedIn s.turns := by
    rw [course.along.cores, course'.along.cores] at hcores
    exact List.append_cancel_left hcores
  have started := started_perm course course' hcores same.started
  have ended := ended_perm course course' hcores same.ended
  have states := states_eq course course' opened ended
  refine ⟨states, ?_, ?_, ?_, ?_, ?_, fun i => ?_, ?_, ?_, fun b hb => block_of_mem course hb⟩
  · have hsound := course.along.steady.sound
    have hsound' := course'.along.steady.sound
    have hstarted : s'.finish.tracker.started = s.finish.tracker.started := by
      have hx : s.finish.pending.map Pending.exchange = List.range' 1 s.finish.tracker.started := hsound.exchanges
      have hx' : s'.finish.pending.map Pending.exchange = List.range' 1 s'.finish.tracker.started := hsound'.exchanges
      have hlength := congrArg List.length hx
      have hlength' := congrArg List.length hx'
      have hpending := congrArg List.length hcores
      rw [List.length_map, List.length_range'] at hlength hlength'
      rw [List.length_map, List.length_map] at hpending
      rw [← hlength, ← hlength', hpending]
    exact Exchange.Tracker.inFlight_eq hsound.numbered hsound'.numbered hsound.balanced hsound'.balanced hstarted states
  · rw [course.along.store, course'.along.store]
  · rw [course.tells.notices, course'.tells.notices]
    refine eq_of_perm_of_forall_eq (a := r.chat.config.failureMessage) (ended.flatMap_right _) fun message hm => ?_
    obtain ⟨⟨i, x⟩, -, hx⟩ := List.mem_flatMap.mp hm
    cases x with
    | ok => exact nomatch hx
    | error => exact List.mem_singleton.mp hx
  · rw [course.along.requests, course'.along.requests]
    exact started.map _
  · rw [course.tells.users, course'.tells.users, opened]
  · rw [course.tells.tagged, course'.tells.tagged, opened, filter_key_eq course.ends.nodup ended]
  · intro q hq
    rcases List.mem_cons.mp hq with rfl | hq
    · exact course.tells.said
    · obtain rfl := List.mem_singleton.mp hq
      exact course'.tells.said
  · refine course'.tells.blocks.trans (.trans ?_ course.tells.blocks.symm)
    rw [opened]
    exact ((ended.map _).filter _).append_left _

/-- A text was sent, in a session that has an id. -/
def greeting : Run where
  config := .standard
  renderer := .plain
  store := .ofEntries [(Session.defaultKey, "0000-0000-0000-0000")]
  view := {}
  script := ⟨[], [], .failure (.transport "send" "/chat" "offline")⟩
  supply := ⟨fun _ => .ofOctets (.replicate 8 0), 0⟩
  moves := [.type "hi", .send]

/-- A backend that answers a greeting and nothing else. -/
def greeter (q : Exchange.Request) : Except Exchange.Error Json.Value :=
  if q.input = "hi" then .ok (.text "yes") else .error (.transport "send" "/chat" "offline")

/-- What happens after the greeting, when these inputs are answered in order. -/
def answering (inputs : List String) (moves : List Move) : Schedule greeting where
  host := { greeting.finish with
    script := { greeting.script with
      queue := inputs.map fun input => .ready ⟨[], greeter ⟨"", input, .ofOctets (.replicate 8 0)⟩⟩ } }
  chat := rfl
  moves

/-- The greeting is answered before anything else is sent, or last. -/
def early : Schedule greeting := answering ["hi", "yo"] [.poll 0, .type "yo", .send, .poll 1]

@[inherit_doc early]
def late : Schedule greeting := answering ["yo", "hi"] [.type "yo", .send, .poll 1, .poll 0]

theorem served_found {t : Turn Host Move} {f : Exchange.Request → Except Exchange.Error Json.Value} {n : Nat}
    {q : Exchange.Request} {a : Exchange.Arrival} (spares : t.move.sparesStore = true) (hq : t.asked? = some (n, q))
    (ha : t.state.script.answer? n = some a) (h : a.result = f q) : t.Served f := by
  refine ⟨spares, fun n' q' a' hq' ha' => ?_⟩
  obtain ⟨rfl, rfl⟩ := Prod.mk.inj (Option.some.inj (hq.symm.trans hq'))
  obtain rfl := Option.some.inj (ha.symm.trans ha')
  exact h

theorem served_unasked {t : Turn Host Move} {f : Exchange.Request → Except Exchange.Error Json.Value}
    (spares : t.move.sparesStore = true) (h : t.asked? = none) : t.Served f := by
  refine ⟨spares, fun n q a hq _ => ?_⟩
  rw [h] at hq
  cases hq

theorem agree_early_late : early.Served greeter ∧ late.Served greeter ∧ SameWork early late ∧ Agree early late := by
  have holds : greeting.chat.store.Holds greeting.chat.config.sessionKey ⟨"0000-0000-0000-0000", rfl⟩ :=
    ⟨rfl, Session.Store.id?_eq_some.mpr rfl⟩
  have served : early.Served greeter := by
    intro t ht
    simp only [early, answering, turns, Turn.list, List.mem_cons, List.not_mem_nil, or_false] at ht
    rcases ht with rfl | rfl | rfl | rfl
    · exact served_found rfl rfl rfl rfl
    · exact served_unasked rfl rfl
    · exact served_unasked rfl rfl
    · exact served_found rfl rfl rfl rfl
  have served' : late.Served greeter := by
    intro t ht
    simp only [late, answering, turns, Turn.list, List.mem_cons, List.not_mem_nil, or_false] at ht
    rcases ht with rfl | rfl | rfl | rfl
    · exact served_unasked rfl rfl
    · exact served_unasked rfl rfl
    · exact served_found rfl rfl rfl rfl
    · exact served_found rfl rfl rfl rfl
  have same : SameWork early late := by
    refine ⟨rfl, fun i => ?_, fun i => ?_⟩
    · have he : early.started = [1, 2] := rfl
      have hl : late.started = [2, 1] := rfl
      rw [he, hl, List.mem_pair, List.mem_pair, or_comm]
    · have he : early.ended = [1, 2] := rfl
      have hl : late.ended = [2, 1] := rfl
      rw [he, hl, List.mem_pair, List.mem_pair, or_comm]
  exact ⟨served, served', same, agree holds served served' same⟩

end Host.Schedule

end Parley

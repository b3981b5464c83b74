import Parley.Proofs.Host.Turn

/-!
# Runs of a host

A `Host.Run` is a chat with nothing said yet, its surroundings, and the moves that are made.

* `Run.turns`, `Run.finish`, `Run.chat`, `Run.opened` : the turns, what there is after them, and the exchanges made;
* `Run.induction` : what holds at the start and is preserved by every deed of a sound conversation holds of every run;
* `Run.Steady` : the conversation is sound, under the settings it began with; `steady_chat`, `steady_before`;
* `Run.opened_cores`, `Run.opened_eq` : the exchanges made are those handed over, numbered in order;
* `Run.turns_at` : a turn of a run is made after a shorter run.
-/

namespace Parley.Host

open Controller (Talk Pending)

/-- A chat with nothing said yet, its surroundings, and the moves that are made. -/
structure Run where
  config : Config
  renderer : Markdown.Renderer
  store : Session.Store
  view : Transcript.View
  script : Exchange.Script Exchange.Arrival
  supply : Session.Supply
  moves : List Move

namespace Run

def begin (r : Run) : Host := start (Controller.start r.config r.renderer r.store r.view) r.script r.supply

def turns (r : Run) : List (Turn Host Move) := Turn.list next r.begin r.moves

def finish (r : Run) : Host := r.moves.foldl next r.begin

def chat (r : Run) : Controller := r.finish.chat

def playing (r : Run) (ms : List Move) : Run := { r with moves := ms }

def opened (r : Run) : List Exchange.Id := r.turns.filterMap fun t => t.opened?.map Pending.exchange

variable (r : Run)

theorem turns_at {ts us : List (Turn Host Move)} {t : Turn Host Move} (h : r.turns = ts ++ t :: us) :
    ∃ ms, ts = (r.playing ms).turns ∧ t.state = (r.playing ms).finish := by
  obtain ⟨ms, -, ht, hs, -⟩ := Turn.list_at next h
  exact ⟨ms, ht, hs⟩

theorem mem_turns {t : Turn Host Move} (h : t ∈ r.turns) : ∃ ms, t.state = (r.playing ms).finish := by
  obtain ⟨ts, us, hs⟩ := List.append_of_mem h
  obtain ⟨ms, -, ht⟩ := r.turns_at hs
  exact ⟨ms, ht⟩

/-- The conversation of a chat is sound, under the settings a run began with. -/
structure Steady (r : Run) (c : Controller) : Prop where
  sound : c.talk.Sound
  config : c.config = r.config.normalized
  renderer : c.renderer = r.renderer

theorem steady_begin : r.Steady r.begin.chat := ⟨Controller.sound_start _ _ _ _, rfl, rfl⟩

theorem Steady.turn {t : Turn Host Move} {d : Controller.Deed} (h : r.Steady t.before) (hd : t.Comes d) :
    r.Steady t.after := by
  obtain ⟨hconfig, hrenderer⟩ := hd.does.settings
  exact ⟨hd.does.sound h.sound, hconfig.trans h.config, hrenderer.trans h.renderer⟩

theorem steady_chat : r.Steady r.chat := by
  refine Turn.run_induction next (P := fun _ h => r.Steady h.chat) r.steady_begin (fun ts t h => ?_) r.moves
  obtain ⟨d, hd⟩ := t.comes
  exact h.turn r hd

theorem sound : r.chat.talk.Sound := r.steady_chat.sound

theorem steady_before {t : Turn Host Move} (h : t ∈ r.turns) : r.Steady t.before := by
  obtain ⟨ms, ht⟩ := r.mem_turns h
  have hs := (r.playing ms).steady_chat
  unfold Turn.before
  rw [ht]
  exact ⟨hs.sound, hs.config, hs.renderer⟩

/-- What holds at the start and is preserved by every deed of a sound conversation holds of every run. -/
theorem induction {P : List (Turn Host Move) → Controller → Prop} (start : P [] r.begin.chat)
    (turn : ∀ ts (t : Turn Host Move) d, r.Steady t.before → t.Comes d → P ts t.before → P (ts ++ [t]) t.after) :
    P r.turns r.chat := by
  refine (Turn.run_induction next (P := fun ts h => r.Steady h.chat ∧ P ts h.chat) ⟨r.steady_begin, start⟩ ?_
    r.moves).2
  rintro ts t ⟨hs, h⟩
  obtain ⟨d, hd⟩ := t.comes
  exact ⟨hs.turn r hd, turn ts t d hs hd h⟩

/-- The exchanges made are those that the chat has handed over, in order. -/
theorem opened_cores :
    (r.turns.filterMap fun t => t.opened?.map Pending.core) = r.chat.pending.map Pending.core := by
  refine r.induction (P := fun ts c => (ts.filterMap fun t => t.opened?.map Pending.core) = c.pending.map Pending.core)
    rfl fun ts t d _ hd h => ?_
  have hc : t.after.pending.map Pending.core = _ := hd.does.cores
  rw [List.filterMap_append, h, hc, ← hd.opened, List.filterMap_cons]
  cases t.opened? <;> rfl

/-- Exchanges are numbered in the order in which they are made. -/
theorem opened_eq : r.opened = List.range' 1 r.chat.tracker.started := by
  have hcores := congrArg (List.map Prod.fst) r.opened_cores
  rw [List.map_filterMap, List.map_map] at hcores
  have hfst : (fun t : Turn Host Move => Option.map Prod.fst (t.opened?.map Pending.core)) =
      fun t => t.opened?.map Pending.exchange := by
    funext t
    cases t.opened? <;> rfl
  rw [hfst] at hcores
  exact hcores.trans r.sound.exchanges

end Run

end Parley.Host

import Parley.Proofs.Host.Run

/-!
# A transcript is the history of a run

* `Turn.said` : what a turn adds to the transcript: what was typed, or a reply with an empty line after it;
* `Turn.shows` : the calls by which a turn brings the end into view;
* `Run.transcript_history` : the transcript, the entries rendered and the calls on the surface, of every run.
-/

namespace Parley

open Controller (Deed Does Pending Reply)
open Transcript (Entry Role Body View ViewCall)

namespace Turn

variable (t : Turn Host Host.Move)

def said (label : String) (renderer : Markdown.Renderer) : List (Role × Body × Option Exchange.Id) :=
  match t.opened?, t.completed? with
  | some p, _ => [(.user, .text (Transcript.userText label t.before.input), some p.exchange)]
  | none, some (id, body) =>
    [(.bot, .markup (renderer.render (Exchange.replyText body)), some id), (.spacer, .empty, some id)]
  | none, none => []

def filled : View := (t.rendered.map ViewCall.render).foldl View.apply t.before.transcript.view

/-- The end is brought into view after a reply, and when the surface was loaded. -/
def shows : List ViewCall :=
  if t.completed?.isSome || t.loads then [.scrollTo t.filled.metrics.bottom] else []

variable {t : Turn Host Host.Move} {d : Deed}

theorem Comes.said_eq (h : t.Comes d) : t.said t.before.config.userLabel t.before.renderer = d.said t.before := by
  unfold said
  rw [h.opened, h.completed]
  cases d with
  | quiet | scrolled | delivered | failed => rfl
  | opened p =>
    obtain ⟨rfl, -⟩ := h.does.opened_next rfl
    rfl

theorem Comes.rendered_said (h : t.Comes d) :
    t.rendered.map Entry.said = t.said t.before.config.userLabel t.before.renderer := by
  rw [h.said_eq]
  exact h.does.said

theorem Comes.entries (h : t.Comes d) :
    t.after.transcript.entries = t.before.transcript.entries ++ t.rendered := h.does.entries

theorem Comes.calls_eq (h : t.Comes d) : t.calls = t.rendered.map .render ++ t.shows := by
  have hc := h.does.calls
  rw [h.scrolls] at hc
  exact hc

theorem Comes.reply_eq (h : t.Comes d) {id : Exchange.Id} {reply : Reply} (he : t.ended? = some (id, .ok reply)) :
    ∃ body, t.completed? = some (id, body) ∧
      reply = ⟨id, Exchange.replyText body, t.before.renderer.render (Exchange.replyText body)⟩ := by
  rw [h.ended] at he
  cases d with
  | quiet | scrolled | opened => exact nomatch he
  | failed => exact nomatch (Prod.mk.inj (Option.some.inj he)).2
  | delivered id' body =>
    obtain ⟨rfl, hr⟩ := Prod.mk.inj (Option.some.inj he)
    exact ⟨body, h.completed, (Except.ok.inj hr).symm⟩

end Turn

namespace Host.Run

variable (r : Run)

def chats : List Controller := r.turns.map Turn.before ++ [r.chat]

/-- The transcript of a run tells its history. -/
structure History : Prop where
  /-- The transcript is what the turns add to it, one after another. -/
  said : r.chat.transcript.entries.map Entry.said =
    r.turns.flatMap fun t => t.said r.config.normalized.userLabel r.renderer
  /-- Whatever is returned as a reply was shown. -/
  replies : ∀ t ∈ r.turns, ∀ id reply, t.ended? = some (id, .ok reply) →
    ∃ body, t.completed? = some (id, body) ∧
      reply = ⟨id, Exchange.replyText body, r.renderer.render (Exchange.replyText body)⟩
  /-- Entries are numbered. -/
  ids : r.chat.transcript.entries.map Entry.id = List.range' 1 r.chat.transcript.entries.length
  /-- No entry is ever taken back. -/
  grows : r.chats.Pairwise fun c c' => c.transcript.entries <+: c'.transcript.entries
  /-- Every entry is rendered, once and in order. -/
  rendered : r.turns.flatMap Turn.rendered = r.chat.transcript.entries
  /-- The end is brought into view once, after everything is rendered. -/
  calls : ∀ t ∈ r.turns, t.calls = t.rendered.map .render ++ t.shows

theorem entries_said : r.chat.transcript.entries.map Entry.said =
    r.turns.flatMap fun t => t.said r.config.normalized.userLabel r.renderer := by
  refine r.induction (P := fun ts c => c.transcript.entries.map Entry.said =
    ts.flatMap fun t => t.said r.config.normalized.userLabel r.renderer) rfl fun ts t d hs hd h => ?_
  have hsaid := hd.rendered_said
  rw [hs.config, hs.renderer] at hsaid
  rw [hd.entries, List.map_append, h, hsaid, List.flatMap_append, List.flatMap_singleton]

theorem rendered_eq : r.turns.flatMap Turn.rendered = r.chat.transcript.entries := by
  refine r.induction (P := fun ts c => ts.flatMap Turn.rendered = c.transcript.entries) rfl fun ts t d _ hd h => ?_
  rw [hd.entries, ← h, List.flatMap_append, List.flatMap_singleton]

theorem chats_pairwise : r.chats.Pairwise fun c c' => c.transcript.entries <+: c'.transcript.entries := by
  refine r.induction (P := fun ts c => (ts.map Turn.before ++ [c]).Pairwise
    fun c c' => c.transcript.entries <+: c'.transcript.entries) (List.pairwise_singleton _ _) fun ts t d _ hd h => ?_
  have ht : t.before.transcript.entries <+: t.after.transcript.entries := by
    rw [hd.entries]
    exact List.prefix_append _ _
  have hlast : ∀ c ∈ ts.map Turn.before ++ [t.before], c.transcript.entries <+: t.before.transcript.entries := by
    intro c hc
    rcases List.mem_append.mp hc with hc | hc
    · exact (List.pairwise_append.mp h).2.2 c hc t.before (List.mem_singleton_self _)
    · obtain rfl := List.mem_singleton.mp hc
      exact List.prefix_refl _
  rw [List.map_append]
  refine List.pairwise_append.mpr ⟨h, List.pairwise_singleton _ _, fun c hc c' hc' => ?_⟩
  obtain rfl := List.mem_singleton.mp hc'
  exact (hlast c hc).trans ht

/-- However a chat is used, its transcript is its history. -/
theorem transcript_history : r.History where
  said := r.entries_said
  replies t ht id reply he := by
    obtain ⟨d, hd⟩ := t.comes
    obtain ⟨body, hb, hr⟩ := hd.reply_eq he
    rw [(r.steady_before ht).renderer] at hr
    exact ⟨body, hb, hr⟩
  ids := r.sound.entryIds
  grows := r.chats_pairwise
  rendered := r.rendered_eq
  calls t _ := by
    obtain ⟨d, hd⟩ := t.comes
    exact hd.calls_eq

end Host.Run

end Parley

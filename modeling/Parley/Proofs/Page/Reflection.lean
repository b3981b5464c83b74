import Parley.Proofs.Page.Visit

/-!
# What is on a page

* `Effect.html?` : what is put into nodes as HTML; `Has.html_marks` : for an entry;
* `Reflects` : what is on the page after a run, and what of it is HTML; `Mirrors.own`, `Mirrors.html`;
* `entries_mount` : a widget starts with nothing said.
-/

namespace Parley

namespace Page

def Effect.html? : Effect → Option String
  | made ⟨_, _, some (.html s)⟩ => some s
  | made ⟨_, _, some (.text _)⟩ | made ⟨_, _, none⟩ | appended .. | scrolled .. | alerted _ | requested _ | log _
  | console _ => none

theorem Effect.isMark_of_html? {e : Effect} {s : String} (h : e.html? = some s) : e.isMark = true := by
  cases e with
  | made | appended => rfl
  | scrolled | alerted | requested | log | console => exact nomatch h

theorem filterMap_html? (es : List Effect) :
    es.filterMap Effect.html? = (es.filter Effect.isMark).filterMap Effect.html? := by
  rw [List.filterMap_filter]
  refine List.filterMap_congr fun e _ => ?_
  cases hm : e.isMark with
  | true => rfl
  | false =>
    cases hh : e.html? with
    | none => rfl
    | some s => exact nomatch hm.symm.trans (Effect.isMark_of_html? hh)

end Page

namespace Browser

open Page (Effect Options Painting Showing Widget)

/-- The HTML of an entry is that of its source, and is made when its node is. -/
theorem Has.html_marks {b : Browser} {s : Showing} {w : Widget} (h : b.Has s w) :
    s.marks.filterMap Effect.html? = (if s.fate.isMade then s.source.html? else none).toList := by
  have hnode : (Effect.made (Page.Node.ofEntry s.entry)).html? = s.source.html? := by
    rw [h.source.node]
    cases s.source <;> rfl
  unfold Painting.marks
  cases s.fate with
  | uncreated v => rfl
  | unappended v =>
    rw [List.filterMap_cons, hnode]
    cases s.source.html? <;> rfl
  | shown =>
    rw [List.filterMap_cons, hnode]
    cases s.source.html? <;> rfl

/-- What is on the page after a run mirrors the transcripts. -/
structure Reflects (b b' : Browser) (seen : List Effect) (ss : List Showing) : Prop extends Mirrors b b' seen ss where
  /-- Where a widget has its container for itself, nothing is added to it but the entries of the widget, in order, as
  far as the page let them be shown. -/
  own : ∀ (i : Nat) (w : Widget), b.widgets[i]? = some w →
    (∀ (j : Nat) (v : Widget), b'.widgets[j]? = some v → v.container = w.container → j = i) →
    ∃ nodes, b.page.childrenOf? w.container = some nodes ∧ b'.page.childrenOf? w.container =
      some (nodes ++ (ss.filter fun s => s.widget == i).filterMap fun s => s.node?)
  /-- Replies are all that is put into nodes as HTML, one for every node of a reply that was created. -/
  html : seen.filterMap Effect.html? = (ss.filter fun s => s.fate.isMade).filterMap fun s => s.source.html?

section Reflects
variable {b b' : Browser} {seen : List Effect} {ss : List Showing}

theorem Mirrors.html (h : Mirrors b b' seen ss) :
    seen.filterMap Effect.html? = (ss.filter fun s => s.fate.isMade).filterMap fun s => s.source.html? := by
  rw [Page.filterMap_html?, h.paints.marks, List.filterMap_filter]
  have hsources := h.sources
  clear h
  induction ss with
  | nil => rfl
  | cons s ss ih =>
    obtain ⟨w, hw⟩ := hsources s List.mem_cons_self
    rw [List.map_cons, List.flatMap_cons, List.filterMap_append, hw.html_marks,
      ih fun s hs => hsources s (List.mem_cons_of_mem _ hs), List.filterMap_cons]
    cases (if s.fate.isMade then s.source.html? else none) <;> rfl

theorem Mirrors.own (h : Mirrors b b' seen ss) (sound : b.Sound) {i : Nat} {w : Widget}
    (hw : b.widgets[i]? = some w)
    (alone : ∀ (j : Nat) (v : Widget), b'.widgets[j]? = some v → v.container = w.container → j = i) :
    ∃ nodes, b.page.childrenOf? w.container = some nodes ∧ b'.page.childrenOf? w.container =
      some (nodes ++ (ss.filter fun s => s.widget == i).filterMap fun s => s.node?) := by
  have hsame : ∀ s ∈ ss, (s.element == w.container) = (s.widget == i) := by
    intro s hs
    obtain ⟨v, hv⟩ := h.sources s hs
    rw [Bool.eq_iff_iff, beq_iff_eq, beq_iff_eq, hv.element]
    constructor
    · exact alone s.widget v hv.mounted
    · intro hi
      obtain ⟨w', hw', goes⟩ := h.widgets i w hw
      rw [← hi] at hw'
      obtain rfl := Option.some.inj (hw'.symm.trans hv.mounted)
      exact goes.container
  have hnodes : Painting.nodesAt w.container (ss.map Showing.toPainting) =
      (ss.filter fun s => s.widget == i).filterMap fun s => s.node? := by
    rw [Painting.nodesAt, List.filter_map, List.filterMap_map]
    exact congrArg (List.filterMap _) (List.filter_congr hsame)
  obtain ⟨nodes, hbefore⟩ := Option.isSome_iff_exists.mp (sound w (List.mem_of_getElem? hw)).container
  refine ⟨nodes, hbefore, ?_⟩
  rw [h.paints.children, hnodes, hbefore]
  rfl

end Reflects

theorem entries_mount (b : Browser) {o : Options} {i : Nat} (h : (b.mount o).result = .ok i) :
    (b.mount o).browser.entries i = [] := by
  obtain ⟨w, hw, hentries, -⟩ := mount_ok h
  rw [entries_eq hw, hentries]

/-- Whatever happens on a page, from any moment on: transcripts are on it as far as it lets them be shown. -/
theorem mirrors_transcripts (page : Page) (supply : Session.Supply) (ms ms' : List Move) :
    let b := ms.foldl next (opened page supply)
    (∀ o i, (b.mount o).result = .ok i → (b.mount o).browser.entries i = []) ∧
      ∃ shown : List (List Showing), List.Forall₂ Fated (Turn.list next b ms') shown ∧
        Reflects b (ms'.foldl next b) (seenIn (Turn.list next b ms')) shown.flatten := by
  intro b
  have sound : b.Sound := sound_run page supply ms
  obtain ⟨shown, hfated, h⟩ := run_mirrors sound ms'
  exact ⟨fun o i => b.entries_mount, shown, hfated, h, fun i w => h.own sound, h.html⟩

end Browser

end Parley

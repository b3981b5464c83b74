import Parley.Page.Widget
import Parley.Proofs.Controller.Conversation

/-!
# What becomes of entries on a page

An entry is shown at the end of an element, unless the page refuses to create its node or to append it.

* `Fate`, `Faults.fate`, `Faults.past` : what becomes of the next entry, and what is refused afterwards;
  `Faults.fates`, `Faults.after` : of many;
* `Painting` : an entry, the element it is meant for, and its fate; `Painting.marks` : what is seen of it;
* `Paints` : what was on the page stays, and nodes come after it; `Heeds` : the fates are what the page refuses; `Draws`
  is both, and `Draws.trans` one after the other;
* `render_draws`, `performAll_draws`, `carryOut_draws` : what a chat has done on the page.
-/

namespace Parley.Page

open Transcript (Entry ViewCall)

/-- What becomes of an entry that is to be shown. -/
inductive Fate
  /-- No node is created. -/
  | uncreated (v : Thrown)
  /-- Its node is not appended. -/
  | unappended (v : Thrown)
  | shown

def Fate.isMade : Fate → Bool
  | uncreated _ => false
  | unappended _ | shown => true

namespace Faults

def fate (fs : Faults) : Fate :=
  match fs 0 .createElement with
  | some v => .uncreated v
  | .none =>
    match fs 1 .appendChild with
    | some v => .unappended v
    | .none => .shown

/-- The faults after an entry: a node that is not created is not appended either. -/
def past (fs : Faults) : Faults := if fs.fate.isMade then fs.later.later else fs.later

/-- What becomes of the next `n` entries. -/
def fates : Faults → Nat → List Fate
  | _, 0 => []
  | fs, n + 1 => fs.fate :: fs.past.fates n

def after : Faults → Nat → Faults
  | fs, 0 => fs
  | fs, n + 1 => fs.past.after n

theorem fates_add (fs : Faults) (m n : Nat) : fs.fates (m + n) = fs.fates m ++ (fs.after m).fates n := by
  induction m generalizing fs with
  | zero =>
    rw [Nat.zero_add]
    rfl
  | succ m ih =>
    rw [Nat.succ_add]
    exact congrArg (fs.fate :: ·) (ih fs.past)

theorem after_add (fs : Faults) (m n : Nat) : fs.after (m + n) = (fs.after m).after n := by
  induction m generalizing fs with
  | zero =>
    rw [Nat.zero_add]
    rfl
  | succ m ih =>
    rw [Nat.succ_add]
    exact ih fs.past

end Faults

def Effect.isMark : Effect → Bool
  | made _ | appended .. => true
  | scrolled .. | alerted _ | requested _ | log _ | console _ => false

/-- An entry that is to be shown at the end of an element. -/
structure Painting where
  element : Nat
  entry : Entry
  fate : Fate

namespace Painting

def node? (s : Painting) : Option Node :=
  match s.fate with
  | .uncreated _ | .unappended _ => none
  | .shown => some (Node.ofEntry s.entry)

def marks (s : Painting) : List Effect :=
  match s.fate with
  | .uncreated _ => []
  | .unappended _ => [.made (Node.ofEntry s.entry)]
  | .shown => [.made (Node.ofEntry s.entry), .appended s.element (Node.ofEntry s.entry)]

def nodesAt (e : Nat) (ss : List Painting) : List Node := (ss.filter fun s => s.element == e).filterMap node?

theorem nodesAt_append (e : Nat) (ss ss' : List Painting) : nodesAt e (ss ++ ss') = nodesAt e ss ++ nodesAt e ss' := by
  rw [nodesAt, List.filter_append, List.filterMap_append]
  rfl

theorem nodesAt_single (e : Nat) (s : Painting) :
    nodesAt e [s] = if s.element = e then s.node?.toList else [] := by
  rw [nodesAt, List.filter_cons, List.filter_nil]
  by_cases h : s.element = e
  · rw [if_pos h, if_pos (beq_iff_eq.mpr h), List.filterMap_cons, List.filterMap_nil]
    cases s.node? <;> rfl
  · rw [if_neg h, if_neg (fun hb => h (beq_iff_eq.mp hb))]
    rfl

end Painting

def childrenOf? (p : Page) (e : Nat) : Option (List Node) := (p.elements[e]?).map Element.children

/-- From one page to the other nodes were appended for entries, and nothing else was done to nodes. -/
structure Paints (p p' : Page) (seen : List Effect) (ss : List Painting) : Prop where
  /-- What was on an element stays, and nodes come after it. -/
  children : ∀ e, p'.childrenOf? e = (p.childrenOf? e).map (· ++ Painting.nodesAt e ss)
  marks : seen.filter Effect.isMark = ss.flatMap Painting.marks

/-- The fates of entries are what the page refuses. -/
structure Heeds (p p' : Page) (ss : List Painting) : Prop where
  fates : ss.map Painting.fate = p.faults.fates ss.length
  faults : p'.faults = p.faults.after ss.length

/-- Entries were shown, or tried to. -/
structure Draws (p p' : Page) (seen : List Effect) (ss : List Painting) : Prop extends Paints p p' seen ss,
  Heeds p p' ss

section Draws
variable {p p' p'' : Page} {seen seen' : List Effect} {ss ss' : List Painting}

theorem Paints.trans (h : Paints p p' seen ss) (h' : Paints p' p'' seen' ss') :
    Paints p p'' (seen ++ seen') (ss ++ ss') := by
  refine ⟨fun e => ?_, ?_⟩
  · rw [h'.children, h.children, Option.map_map, Painting.nodesAt_append]
    refine congrArg (Option.map · _) (funext fun nodes => ?_)
    exact List.append_assoc _ _ _
  · rw [List.filter_append, h.marks, h'.marks, List.flatMap_append]

theorem Heeds.trans (h : Heeds p p' ss) (h' : Heeds p' p'' ss') : Heeds p p'' (ss ++ ss') := by
  refine ⟨?_, ?_⟩
  · rw [List.map_append, List.length_append, h.fates, h'.fates, h.faults, Faults.fates_add]
  · rw [h'.faults, h.faults, List.length_append, Faults.after_add]

theorem Draws.trans (h : Draws p p' seen ss) (h' : Draws p' p'' seen' ss') :
    Draws p p'' (seen ++ seen') (ss ++ ss') :=
  ⟨h.toPaints.trans h'.toPaints, h.toHeeds.trans h'.toHeeds⟩

theorem Paints.isSome_childrenOf? (h : Paints p p' seen ss) (e : Nat) :
    (p'.childrenOf? e).isSome = (p.childrenOf? e).isSome := by
  rw [h.children, Option.isSome_map]

theorem Paints.still (children : ∀ e, p'.childrenOf? e = p.childrenOf? e) (marks : seen.filter Effect.isMark = []) :
    Paints p p' seen [] := by
  refine ⟨fun e => ?_, marks⟩
  rw [children e]
  cases p.childrenOf? e with
  | none => rfl
  | some nodes => exact congrArg some (List.append_nil nodes).symm

theorem Heeds.still (faults : p'.faults = p.faults) : Heeds p p' [] := ⟨rfl, faults⟩

theorem Draws.still (faults : p'.faults = p.faults) (children : ∀ e, p'.childrenOf? e = p.childrenOf? e)
    (marks : seen.filter Effect.isMark = []) : Draws p p' seen [] :=
  ⟨.still children marks, .still faults⟩

theorem childrenOf?_modify (p : Page) (element e : Nat) (f : Element → Element) :
    (p.modify element f).childrenOf? e =
      (p.elements[e]?).map fun el => if element = e then (f el).children else el.children := by
  rw [childrenOf?, modify, List.getElem?_modify]
  cases p.elements[e]? with
  | none => rfl
  | some el =>
    show some (if element = e then f el else el).children = some _
    rw [apply_ite Element.children]

theorem childrenOf?_modify_same (p : Page) (element e : Nat) {f : Element → Element}
    (h : ∀ el, (f el).children = el.children) : (p.modify element f).childrenOf? e = p.childrenOf? e := by
  rw [childrenOf?_modify]
  refine congrArg (Option.map · _) (funext fun el => ?_)
  rw [h el, ite_self]

/-! ## What a chat has done on the page -/

theorem Draws.unshown {s : Painting} (h : s.node? = none) (fate : s.fate = p.faults.fate)
    (faults : p'.faults = p.faults.past) (children : ∀ e, p'.childrenOf? e = p.childrenOf? e)
    (marks : seen.filter Effect.isMark = s.marks) : Draws p p' seen [s] := by
  refine ⟨⟨fun e => ?_, marks.trans (List.append_nil _).symm⟩, congrArg (fun f => [f]) fate, faults⟩
  have hnone : Painting.nodesAt e [s] = [] := by
    rw [Painting.nodesAt_single, h]
    exact ite_self _
  rw [children e, hnone]
  cases p.childrenOf? e with
  | none => rfl
  | some nodes => exact congrArg some (List.append_nil nodes).symm

theorem childrenOf?_append (p : Page) (element e : Nat) (n : Node) :
    (p.modify element fun el => el.append n).childrenOf? e =
      (p.childrenOf? e).map (· ++ if element = e then [n] else []) := by
  rw [childrenOf?_modify, childrenOf?, Option.map_map]
  refine congrArg (Option.map · _) (funext fun el => ?_)
  show (if element = e then (el.append n).children else el.children) = el.children ++ if element = e then [n] else []
  split
  · rfl
  · exact (List.append_nil _).symm

theorem render_draws (p : Page) (element : Nat) (e : Entry) :
    Draws p (p.render element e).1 (p.render element e).2 [⟨element, e, p.faults.fate⟩] := by
  have hcreate : p.throws? .createElement = p.faults 0 .createElement := rfl
  have happend : p.later.throws? .appendChild = p.faults 1 .appendChild := rfl
  unfold render
  rw [hcreate]
  cases hc : p.faults 0 .createElement with
  | some v =>
    have hfate : p.faults.fate = .uncreated v := by rw [Faults.fate, hc]
    have hpast : p.faults.later = p.faults.past := by
      rw [Faults.past, hfate]
      rfl
    rw [hfate]
    exact .unshown rfl hfate.symm hpast (fun _ => rfl) rfl
  | none =>
    dsimp only
    rw [happend]
    cases ha : p.faults 1 .appendChild with
    | some v =>
      have hfate : p.faults.fate = .unappended v := by rw [Faults.fate, hc, ha]
      have hpast : p.faults.later.later = p.faults.past := by
        rw [Faults.past, hfate]
        rfl
      rw [hfate]
      exact .unshown rfl hfate.symm hpast (fun _ => rfl) rfl
    | none =>
      have hfate : p.faults.fate = .shown := by rw [Faults.fate, hc, ha]
      have hpast : p.faults.later.later = p.faults.past := by
        rw [Faults.past, hfate]
        rfl
      rw [hfate]
      refine ⟨⟨fun j => ?_, rfl⟩, congrArg (fun f => [f]) hfate.symm, hpast⟩
      rw [Painting.nodesAt_single]
      exact childrenOf?_append p.later.later element j (Node.ofEntry e)

def rendered? (e : Controller.Effect) : Option Entry := e.call?.bind ViewCall.entry?

/-- Only showing an entry does something to nodes. -/
theorem perform_draws (p : Page) (w : Widget) (e : Controller.Effect) :
    ∃ ss, Draws p (p.perform w e).1 (p.perform w e).2 ss ∧
      ss.map (fun s => (s.element, s.entry)) = (rendered? e).toList.map fun entry => (w.container, entry) := by
  cases e with
  | view call =>
    cases call with
    | render e => exact ⟨_, render_draws p w.container e, rfl⟩
    | scrollTo offset =>
      exact ⟨[], .still rfl (fun j => childrenOf?_modify_same p w.container j fun _ => rfl) rfl, rfl⟩
  | notify message =>
    refine ⟨[], .still rfl (fun _ => rfl) ?_, rfl⟩
    show (p.alert message).filter Effect.isMark = []
    unfold alert
    cases p.throws? .alert <;> rfl
  | post n r =>
    refine ⟨[], ?_, rfl⟩
    show Draws p (p.send w.url r).1 (p.send w.url r).2 []
    unfold send
    split
    · exact .still rfl (fun _ => rfl) rfl
    · exact .still rfl (fun _ => rfl) rfl
  | log event => exact ⟨[], .still rfl (fun _ => rfl) rfl, rfl⟩

theorem performAll_draws (p : Page) (w : Widget) (es : List Controller.Effect) :
    ∃ ss, Draws p (p.performAll w es).1 (p.performAll w es).2 ss ∧
      ss.map (fun s => (s.element, s.entry)) = (es.filterMap rendered?).map fun entry => (w.container, entry) := by
  induction es generalizing p with
  | nil => exact ⟨[], .still rfl (fun _ => rfl) rfl, rfl⟩
  | cons e es ih =>
    obtain ⟨ss, hfirst, hss⟩ := perform_draws p w e
    obtain ⟨ss', hrest, hss'⟩ := ih (p.perform w e).1
    refine ⟨ss ++ ss', hfirst.trans hrest, ?_⟩
    rw [List.map_append, hss, hss', ← List.map_append, List.filterMap_cons]
    cases rendered? e <;> rfl

/-- A step of a widget's chat is carried out on the page: its entries are shown on its container. -/
theorem carryOut_draws (p : Page) (w : Widget) (chat : Controller) (es : List Controller.Effect) :
    ∃ ss, Draws p (p.carryOut w chat es).1 (p.carryOut w chat es).2 ss ∧
      ss.map (fun s => (s.element, s.entry)) = (es.filterMap rendered?).map fun entry => (w.container, entry) := by
  let p₁ : Page := { p.modify w.field fun e => { e with value := chat.input } with storage := chat.store.entries }
  obtain ⟨ss, h, hss⟩ := performAll_draws p₁ w es
  have hstill : Draws p p₁ [] [] :=
    .still rfl (fun j => childrenOf?_modify_same p w.field j fun _ => rfl) rfl
  exact ⟨ss, hstill.trans h, hss⟩

end Draws

end Parley.Page

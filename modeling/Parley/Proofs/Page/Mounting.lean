import Parley.Proofs.Page.Visit

/-!
# Mounting a widget

* `Page.First`, `Page.HasId`, `Page.Names`, `bind_ok_iff` : the elements that options name;
* `Page.FindsClasses`, `Names.place` : what is known of selectors, and where a container is found then;
* `carryOut_chatOn` : a chat that only looks at the page changes neither its text field nor the storage;
* `mount_unbound`, `mount_refused`, `mount_bound` : what mounting comes to;
* `Browser.Mounts`, `mount_mounts`, `mount_ok_iff` : a widget is mounted as a whole, or nothing has changed;
* `Page.Restored`, `mount_restored` : the storage has no part in it.
-/

namespace Parley

namespace Page

/-! ## The elements that options name -/

structure First (p : Page) (q : Element → Bool) (i : Nat) : Prop where
  holds : ∃ e, p.elements[i]? = some e ∧ q e = true
  before : ∀ j < i, ∀ e, p.elements[j]? = some e → q e = false

structure HasId (p : Page) (id : String) (i : Nat) : Prop where
  nonempty : id ≠ ""
  first : p.First (fun e => e.id == id) i

/-- The options name this text field and this container. -/
structure Names (p : Page) (o : Options) (field container : Nat) : Prop where
  window : p.window = true
  document : p.document = true
  input : p.HasId o.inputId field
  isInput : ∃ e, p.elements[field]? = some e ∧ e.isInput = true
  /-- By its id, or else by the selector of a class. -/
  transcript : p.HasId o.transcriptId container ∨
    (∀ i, ¬p.HasId o.transcriptId i) ∧ p.queried ("." ++ o.transcriptId) = .ok (some container)

section Names
variable {p : Page}

theorem findIdx?_eq_some_iff {q : Element → Bool} {i : Nat} : p.elements.findIdx? q = some i ↔ p.First q i := by
  rw [List.findIdx?_eq_some_iff_getElem]
  constructor
  · rintro ⟨hi, holds, before⟩
    refine ⟨⟨_, List.getElem?_eq_getElem hi, holds⟩, fun j hj e he => ?_⟩
    obtain ⟨-, rfl⟩ := List.getElem?_eq_some_iff.mp he
    exact Bool.eq_false_iff.mpr (before j hj)
  · rintro ⟨⟨e, he, holds⟩, before⟩
    obtain ⟨hi, rfl⟩ := List.getElem?_eq_some_iff.mp he
    refine ⟨hi, holds, fun j hj => ?_⟩
    exact Bool.eq_false_iff.mp (before j hj _ (List.getElem?_eq_getElem (Nat.lt_trans hj hi)))

theorem elementById?_eq_some_iff {id : String} {i : Nat} : p.elementById? id = some i ↔ p.HasId id i := by
  unfold elementById?
  by_cases hid : id = ""
  · rw [if_pos hid]
    exact ⟨nofun, fun h => absurd hid h.nonempty⟩
  · rw [if_neg hid, findIdx?_eq_some_iff]
    exact ⟨fun h => ⟨hid, h⟩, HasId.first⟩

theorem elementById?_eq_none_iff {id : String} : p.elementById? id = none ↔ ∀ i, ¬p.HasId id i := by
  rw [Option.eq_none_iff_forall_ne_some]
  exact forall_congr' fun i => not_congr elementById?_eq_some_iff

theorem field_ok_iff {id : String} {i : Nat} :
    p.field id = .ok i ↔ p.HasId id i ∧ ∃ e, p.elements[i]? = some e ∧ e.isInput = true := by
  have hany : (∃ e, p.elements[i]? = some e ∧ e.isInput = true) ↔ (p.elements[i]?).any Element.isInput = true := by
    cases p.elements[i]? <;> simp
  rw [← elementById?_eq_some_iff, hany]
  unfold field
  cases p.elementById? id with
  | none => exact ⟨nofun, nofun⟩
  | some j =>
    dsimp only
    split
    · next hinput =>
      constructor
      · intro h
        obtain rfl := Except.ok.inj h
        exact ⟨rfl, hinput⟩
      · rintro ⟨h, -⟩
        rw [Option.some.inj h]
    · next hinput =>
      refine ⟨nofun, ?_⟩
      rintro ⟨h, hi⟩
      obtain rfl := Option.some.inj h
      exact absurd hi hinput

theorem container_ok_iff {id : String} {i : Nat} : p.container id = .ok i ↔ p.HasId id i ∨
    (∀ j, ¬p.HasId id j) ∧ p.queried ("." ++ id) = .ok (some i) := by
  rw [← elementById?_eq_some_iff, ← elementById?_eq_none_iff]
  unfold container
  cases p.elementById? id with
  | some j =>
    refine ⟨fun h => .inl (congrArg some (Except.ok.inj h)), ?_⟩
    rintro (h | ⟨h, -⟩)
    · exact congrArg Except.ok (Option.some.inj h)
    · exact nomatch h
  | none =>
    dsimp only
    cases p.queried ("." ++ id) with
    | error v =>
      refine ⟨nofun, ?_⟩
      rintro (h | ⟨-, h⟩) <;> exact nomatch h
    | ok found =>
      cases found with
      | none =>
        refine ⟨nofun, ?_⟩
        rintro (h | ⟨-, h⟩) <;> exact nomatch h
      | some j =>
        refine ⟨fun h => .inr ⟨rfl, congrArg (fun i => Except.ok (some i)) (Except.ok.inj h)⟩, ?_⟩
        rintro (h | ⟨-, h⟩)
        · exact nomatch h
        · exact congrArg Except.ok (Option.some.inj (Except.ok.inj h))

/-- Options bind a widget to the elements that they name. -/
theorem bind_ok_iff {o : Options} {field container : Nat} :
    p.bind o = .ok (field, container) ↔ p.Names o field container := by
  have hparts : (p.window = true ∧ p.document = true ∧ p.field o.inputId = .ok field ∧
      p.container o.transcriptId = .ok container) ↔ p.Names o field container := by
    rw [field_ok_iff, container_ok_iff]
    exact ⟨fun ⟨hw, hd, ⟨hf, hi⟩, hc⟩ => ⟨hw, hd, hf, hi, hc⟩, fun ⟨hw, hd, hf, hi, hc⟩ => ⟨hw, hd, ⟨hf, hi⟩, hc⟩⟩
  rw [← hparts]
  unfold Page.bind
  cases p.window with
  | false => exact ⟨nofun, nofun⟩
  | true =>
    cases p.document with
    | false => exact ⟨nofun, nofun⟩
    | true =>
      cases p.field o.inputId with
      | error e => exact ⟨nofun, nofun⟩
      | ok i =>
        cases p.container o.transcriptId with
        | error e => exact ⟨nofun, nofun⟩
        | ok j =>
          constructor
          · intro h
            obtain ⟨rfl, rfl⟩ := Prod.mk.inj (Except.ok.inj h)
            exact ⟨rfl, rfl, rfl, rfl⟩
          · rintro ⟨-, -, hi, hj⟩
            rw [Except.ok.inj hi, Except.ok.inj hj]
            rfl

end Names

/-! ## Classes -/

/-- The names in a list of classes, between which there are ASCII blanks. -/
def classNames (classes : String) : List String :=
  ((classes.toList.splitOnP (['\t', '\n', '\x0c', '\r', ' '].contains ·)).map String.ofList).filter (· != "")

def Element.hasClass (name : String) (e : Element) : Bool := (classNames e.classes).contains name

/-- The characters beyond ASCII that may be in an identifier of CSS. -/
def identifierRanges : List Text.Range :=
  Text.Range.ofTable ["b7 c0-d6 d8-f6 f8-37d 37f-1fff 200c-200d 203f-2040 2070-218f 2c00-2fef 3001-d7ff f900-fdcf",
    "fdf0-fffd 10000-10ffff"]

def beginsIdentifier (c : Char) : Bool := c.isAlpha || c == '_' || Text.Range.anyContains c.toNat identifierRanges

/-- The name is an identifier of CSS, so that it can stand in a selector as it is. -/
def isPlainName (name : String) : Bool :=
  let goesOn (c : Char) : Bool := c.isDigit || c == '-' || beginsIdentifier c
  match name.toList with
  | [] => false
  | '-' :: c :: cs => (c == '-' || beginsIdentifier c) && cs.all goesOn
  | c :: cs => beginsIdentifier c && cs.all goesOn

/-- The node may be of a class, or hold what is: in HTML there may be anything. -/
def Node.mayShow (name : String) (n : Node) : Bool :=
  (classNames n.className).contains name ||
    n.content.any fun
      | .html _ => true
      | .text _ => false

/-- Nothing of a class was appended to the elements. -/
def Unappended (name : String) (es : List Element) : Prop := ∀ e ∈ es, ∀ n ∈ e.children, n.mayShow name = false

instance (name : String) (es : List Element) : Decidable (Unappended name es) :=
  inferInstanceAs (Decidable (∀ e ∈ es, ∀ n ∈ e.children, n.mayShow name = false))

/-- The document finds the first element of a class by the selector of the class. All documents do but those that
neglect capitals (quirks mode). -/
def FindsClasses (p : Page) : Prop :=
  ∀ es name, isPlainName name = true → Unappended name es →
    p.query es ("." ++ name) = .ok (es.findFinIdx? (Element.hasClass name))

/-- The element is the one with this id, or else the first of the class of that name. -/
def Place (p : Page) (name : String) (i : Nat) : Prop :=
  p.HasId name i ∨ (∀ j, ¬p.HasId name j) ∧ p.First (Element.hasClass name) i

theorem Names.place {p : Page} {o : Options} {field container : Nat} (h : p.Names o field container)
    (classes : p.FindsClasses) (plain : isPlainName o.transcriptId = true)
    (unappended : Unappended o.transcriptId p.elements) : p.Place o.transcriptId container := by
  refine h.transcript.imp_right fun ⟨absent, found⟩ => ⟨absent, ?_⟩
  obtain ⟨-, i, hquery, rfl⟩ := queried_ok_iff.mp found
  have hfirst := Except.ok.inj ((classes p.elements o.transcriptId plain unappended).symm.trans hquery)
  rw [← findIdx?_eq_some_iff, List.findIdx?_eq_map_findFinIdx?_val, hfirst]
  rfl

/-- A document that reads the selectors of classes, if their names are plain, and no others. -/
def classQuery (es : List Element) (selector : String) : Except Thrown (Option (Fin es.length)) :=
  let name := String.ofList (selector.toList.drop 1)
  if selector.toList.head? = some '.' ∧ isPlainName name then .ok (es.findFinIdx? (Element.hasClass name))
  else .error (.failure "SyntaxError")

theorem findsClasses_classQuery {p : Page} (h : p.query = classQuery) : p.FindsClasses := by
  intro es name plain _
  have hselector : ("." ++ name).toList = '.' :: name.toList := String.toList_append
  have hname : String.ofList (('.' :: name.toList).drop 1) = name := String.ofList_toList
  rw [h, classQuery, hselector, hname]
  exact if_pos ⟨rfl, plain⟩

/-- A page with the elements that the standard options name, whose requests get this reply. -/
def plain (r : Reply) : Page where
  elements :=
    [{ tag := "input", id := Options.standard.inputId }, { tag := "div", id := Options.standard.transcriptId }]
  query := classQuery
  replies := ⟨[], [], r⟩

/-! ## Looking at the page -/

def endOf (p : Page) (element : Nat) : Int32 :=
  (((p.elements[element]?).map Element.metrics).getD {}).bottom.toInt32

def atEnd (p : Page) (element : Nat) : Page := p.modify element fun e => { e with scrollTop := p.endOf element }

theorem modify_value (p : Page) (field : Nat) :
    (p.modify field fun e => { e with value := ((p.elements[field]?).map Element.value).getD "" }) = p := by
  have hsame : (p.elements.modify field fun e =>
      { e with value := ((p.elements[field]?).map Element.value).getD "" }) = p.elements := by
    refine List.ext_getElem? fun i => ?_
    rw [List.getElem?_modify]
    by_cases hi : field = i
    · subst hi
      cases he : p.elements[field]? with
      | none => rfl
      | some e => simp
    · simp [hi]
  unfold Page.modify
  rw [hsame]

/-- A chat that only looks at the page changes neither its text field nor the storage. -/
theorem carryOut_chatOn (p : Page) (w : Widget) (chat : Controller) (input : chat.input = (w.chatOn p).input)
    (store : chat.store = (w.chatOn p).store) (es : List Controller.Effect) :
    p.carryOut w chat es = p.performAll w es := by
  unfold carryOut
  rw [input, store]
  have hvalue : (p.modify w.field fun e => { e with value := (w.chatOn p).input }) = p := modify_value p w.field
  rw [hvalue]
  rfl

end Page

namespace Browser

open Page (Effect Error Options Widget)

/-! ## Mounting -/

/-- What is told when a widget is about to be mounted with these options. -/
def announcement (o : Options) : Log.Event := mounting o.config.normalized.requestUrl o.config.normalized

def newcomer (p : Page) (o : Options) (field container : Nat) : Widget :=
  ⟨Controller.start o.config.normalized .standard p.store {}, field, container, o.config.normalized.requestUrl, false⟩

def loaded (p : Page) (w : Widget) : Widget := { w with chat := (w.chatOn p).load.state }

def joined (b : Browser) (o : Options) (field container : Nat) : Browser :=
  { b with
    page := { b.page.atEnd container with listeners := b.page.listeners ++ [⟨field, b.widgets.length⟩] }
    widgets := b.widgets ++ [loaded b.page (newcomer b.page o field container)] }

section Mount
variable {b : Browser} {o : Options} {field container : Nat}

theorem mount_unbound {e : Error} (h : b.page.bind o = .error e) : b.mount o = ⟨.error e, b, []⟩ := by
  rw [mount, h]

theorem mount_refused (h : b.page.bind o = .ok (field, container)) {v : Page.Thrown}
    (throws : b.page.throws? .addEventListener = some v) :
    b.mount o = ⟨.error (.dom "attach-key-listener" v.details), b, [.log (announcement o)]⟩ := by
  rw [mount, h]
  dsimp only
  rw [throws]
  rfl

theorem act_load (b : Browser) (i : Nat) (w : Widget) : b.act i w Controller.load =
    ⟨(), { b with page := b.page.atEnd w.container, widgets := b.widgets.set i (loaded b.page w) },
      [.scrolled w.container (b.page.endOf w.container)]⟩ := by
  rw [act_eq, Page.carryOut_chatOn b.page w (w.chatOn b.page).load.state rfl rfl]
  rfl

/-- Its listener is attached, and the end of its container is brought into view. -/
theorem mount_bound (h : b.page.bind o = .ok (field, container)) (throws : b.page.throws? .addEventListener = none) :
    b.mount o = ⟨.ok b.widgets.length, b.joined o field container,
      [.log (announcement o), .scrolled container (b.page.endOf container)]⟩ := by
  have hset : ∀ w w' : Widget, (b.widgets ++ [w]).set b.widgets.length w' = b.widgets ++ [w'] := fun w w' => by
    rw [List.set_append_right _ _ (Nat.le_refl _), Nat.sub_self]
    rfl
  rw [mount, h]
  dsimp only
  rw [throws]
  dsimp only
  rw [act_load, hset]
  rfl

/-- What mounting a widget comes to. -/
inductive Mounts (b : Browser) (o : Options) : Outcome (Except Error Nat) → Prop
  /-- Something is in the way, and nothing has changed. At most the log tells of it. -/
  | refused (e : Error) (log : List Log.Event) : Mounts b o ⟨.error e, b, log.map .log⟩
  /-- The listener of the widget is attached, and the end of its container is in view. -/
  | mounted {field container : Nat} (names : b.page.Names o field container) :
      Mounts b o ⟨.ok b.widgets.length, b.joined o field container,
        [.log (announcement o), .scrolled container (b.page.endOf container)]⟩

/-- A widget is mounted as a whole, or nothing has changed. -/
theorem mount_mounts (b : Browser) (o : Options) : b.Mounts o (b.mount o) := by
  cases h : b.page.bind o with
  | error e =>
    rw [mount_unbound h]
    exact .refused e []
  | ok bound =>
    cases ht : b.page.throws? .addEventListener with
    | some v =>
      rw [mount_refused h ht]
      exact .refused _ [announcement o]
    | none =>
      rw [mount_bound h ht]
      exact .mounted (Page.bind_ok_iff.mp h)

/-- It is mounted when options name its elements and the page takes its listener. -/
theorem mount_ok_iff : (∃ i, (b.mount o).result = .ok i) ↔
    (∃ field container, b.page.Names o field container) ∧ b.page.throws? .addEventListener = none := by
  cases h : b.page.bind o with
  | error e =>
    rw [mount_unbound h]
    refine ⟨fun ⟨i, hi⟩ => (nomatch hi), ?_⟩
    rintro ⟨⟨field, container, names⟩, -⟩
    exact nomatch h.symm.trans (Page.bind_ok_iff.mpr names)
  | ok bound =>
    cases ht : b.page.throws? .addEventListener with
    | some v =>
      rw [mount_refused h ht]
      exact ⟨fun ⟨i, hi⟩ => (nomatch hi), fun ⟨_, ht⟩ => (nomatch ht)⟩
    | none =>
      rw [mount_bound h ht]
      exact ⟨fun _ => ⟨⟨_, _, Page.bind_ok_iff.mp h⟩, rfl⟩, fun _ => ⟨_, rfl⟩⟩

end Mount

end Browser

/-! ## The storage has no part in it -/

namespace Page

def Call.isStorage : Call → Bool
  | sessionStorage | getItem | setItem | removeItem => true
  | querySelector | createElement | appendChild | addEventListener | removeEventListener | alert | newHeaders
  | setHeader | newRequest => false

/-- The same page with another storage, which may be missing or refuse calls. -/
structure Restored (p p' : Page) : Prop where
  rest : p' = { p with storage := p'.storage, storageEnabled := p'.storageEnabled, faults := p'.faults }
  faults : ∀ n call, call.isStorage = false → p'.faults n call = p.faults n call

section Restored
variable {p p' : Page}

theorem Restored.bind (h : p.Restored p') (o : Options) : p'.bind o = p.bind o := by
  have hquery : p'.throws? .querySelector = p.throws? .querySelector := h.faults 0 _ rfl
  have hcontainer : p'.container o.transcriptId = p.container o.transcriptId := by
    unfold container queried
    rw [hquery, h.rest]
    rfl
  unfold Page.bind
  rw [hcontainer, h.rest]
  rfl

theorem Restored.joined (h : p.Restored p') (element : Nat) (listeners : List Listener) :
    Restored { p.atEnd element with listeners } { p'.atEnd element with listeners } := by
  refine ⟨?_, h.faults⟩
  rw [h.rest]
  rfl

end Restored

end Page

/-- The same comes of it on a page with another storage. -/
structure Browser.Outcome.Restored {α : Type} (o o' : Outcome α) : Prop where
  result : o'.result = o.result
  effects : o'.effects = o.effects
  page : o.browser.page.Restored o'.browser.page

theorem Browser.mount_restored {b : Browser} {p' : Page} (h : b.page.Restored p') (o : Page.Options) :
    (b.mount o).Restored (Browser.mount { b with page := p' } o) := by
  have hthrows : p'.throws? .addEventListener = b.page.throws? .addEventListener := h.faults 0 _ rfl
  have hlisteners : p'.listeners = b.page.listeners := by rw [h.rest]
  have hend : ∀ element, p'.endOf element = b.page.endOf element := fun element => by
    rw [h.rest]
    rfl
  generalize hb' : ({ b with page := p' } : Browser) = b'
  have hpage : b'.page = p' := hb' ▸ rfl
  have hwidgets : b'.widgets = b.widgets := hb' ▸ rfl
  cases hbind : b.page.bind o with
  | error e =>
    rw [mount_unbound hbind, mount_unbound (hpage ▸ (h.bind o).trans hbind)]
    exact ⟨rfl, rfl, hpage ▸ h⟩
  | ok bound =>
    have hbind' : b'.page.bind o = .ok (bound.1, bound.2) := hpage ▸ (h.bind o).trans hbind
    cases ht : b.page.throws? .addEventListener with
    | some v =>
      rw [mount_refused hbind ht, mount_refused hbind' (hpage ▸ hthrows.trans ht)]
      exact ⟨rfl, rfl, hpage ▸ h⟩
    | none =>
      rw [mount_bound hbind ht, mount_bound hbind' (hpage ▸ hthrows.trans ht), hwidgets, hpage, hend]
      refine ⟨rfl, rfl, ?_⟩
      unfold joined
      dsimp only
      rw [hwidgets, hpage, hlisteners]
      exact h.joined _ _

end Parley

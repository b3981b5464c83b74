import Parley.Proofs.Host.Telling
import Parley.Proofs.Page.Beside

/-!
# Statuses decide nothing

* `Transports` : a response is read by its text over either transport, and its status is told of;
* `Warns`, `Reply.Retold`, `Browser.Retells` : pages on which the same texts come back, with any statuses;
* `status_decides_nothing` : chats and pages with the same texts and other statuses come to the same.
-/

namespace Parley

open Exchange (Answered Arrival Broken Retold Told)

structure Exchange.Transports : Prop where
  /-- The text of a response is decoded, whatever its status. -/
  result : ∀ url status body a, Answered url status body a → a.result = decodeBody body
  /-- There is one warning, unless the status counts as success. -/
  log : ∀ url status body a, Answered url status body a → a.log =
    if 200 ≤ status ∧ status ≤ 299 then []
    else [⟨.warn, "chat endpoint answered with a non-success status", [("status", toString status), ("url", url)]⟩]
  /-- Without a whole response there is no reply. -/
  lost : ∀ url a, Broken url a → ∃ stage details, a.result = .error (.transport stage url details)
  connection : ∀ (u : Url) (x : Http.Reaction),
    (∃ status body, Answered u.text status body (x.arrival u)) ∨ Broken u.text (x.arrival u)
  page : ∀ (p : Page) (url : String) (a : Arrival), (p.answer? url = some a ∨ ∃ n, p.arrived? n url = some a) →
    (∃ status body, Answered url status body a) ∨ Broken url a

theorem Exchange.transports : Transports where
  result _ _ _ _ h := by
    rw [h.arrival_eq]
    rfl
  log _ _ _ _ h := by
    rw [h.arrival_eq]
    exact statusWarning_eq _ _
  lost _ _ h := h.transport
  connection := connection_ends
  page p url a h := by
    rcases h with h | ⟨n, h⟩
    · exact page_ends h
    · obtain ⟨x, -, rfl⟩ := Option.map_eq_some_iff.mp h
      exact reply_ends url x

/-! ## Pages -/

/-- Two times a page's replies say one text, with any statuses; or they are the same. -/
def Page.Reply.Retold (r r' : Page.Reply) : Prop := ∀ url, Exchange.Retold (r.arrival url) (r'.arrival url)

/-- The same is told, or of two statuses. -/
inductive Exchange.Warns : List Log.Event → List Log.Event → Prop
  | same (log : List Log.Event) : Warns log log
  | statuses (status status' : Nat) (url url' : String) :
      Warns (Arrival.statusWarning status url) (Arrival.statusWarning status' url')

theorem Exchange.Retold.warns {a a' : Arrival} (h : Retold a a') : Warns a.log a'.log := by
  cases h with
  | same => exact .same _
  | response h h' =>
    rw [h.arrival_eq, h'.arrival_eq]
    exact .statuses _ _ _ _

theorem Page.means_retold : Page.Means Page.Reply.Retold Exchange.Warns where
  refl _ _ := .same _
  alike _ _ h url := ⟨(h url).result, (h url).warns⟩

namespace Browser

structure Retells (b b' : Browser) : Prop where
  rest : b' = { b with page := { b.page with replies := b'.page.replies } }
  replies : b.page.replies.Alike Page.Reply.Retold b'.page.replies

/-- Nothing but what is told of replies differs. -/
structure Retold (b b' : Browser) (ms ms' : List Move) : Prop where
  turns : List.Forall₂ (fun t t' : Turn Browser Move => (t'.state.step t'.move).result = (t.state.step t.move).result ∧
    Told Page.Effect.log Exchange.Warns (t.state.step t.move).effects (t'.state.step t'.move).effects)
    (Turn.list next b ms) (Turn.list next b' ms')
  finish : (ms.foldl next b).Retells (ms'.foldl next b')

theorem retells_iff_beside {b b' : Browser} : b.Retells b' ↔ b.Beside Page.Reply.Retold (fun _ => false) b' := by
  have hall : ∀ ls : List Page.Listener, (ls.filter fun _ => !false) = ls := fun ls =>
    List.filter_eq_self.mpr fun _ _ => rfl
  constructor
  · intro h
    refine ⟨⟨?_, h.replies⟩, fun i => ?_, ?_, ?_, nofun⟩
    · rw [hall, h.rest]
    · rw [h.rest]
      cases b.widgets[i]? with
      | none => exact .none
      | some w => exact .some (.refl w)
    · rw [h.rest]
    · rw [h.rest]
  · intro h
    have hw : b'.widgets = b.widgets := List.ext_getElem? fun i => by
      have hi := h.widgets i
      generalize b.widgets[i]? = x, b'.widgets[i]? = x' at hi
      cases hi with
      | none => rfl
      | some hi => rw [hi.eq]
    obtain ⟨⟨hpage, hreplies⟩, -, htasks, hsupply, -⟩ := h
    obtain ⟨page', widgets', tasks', supply'⟩ := b'
    dsimp only at hpage hw htasks hsupply hreplies
    rw [hall] at hpage
    refine ⟨?_, hreplies⟩
    rw [hw, htasks, hsupply]
    dsimp only
    rw [← hpage]

/-- Whatever the statuses, the same happens on both pages. -/
theorem retold {b b' : Browser} (h : b.Retells b') {ms ms' : List Move}
    (hms : List.Forall₂ (Move.Alike Page.Reply.Retold) ms ms') : Retold b b' ms ms' := by
  obtain ⟨hturns, hfinish⟩ := runs_beside Page.means_retold (retells_iff_beside.mp h) hms fun t _ =>
    ⟨fun _ _ => rfl, fun _ _ _ _ _ _ _ => rfl⟩
  exact ⟨hturns.imp fun _ _ ht => ⟨ht.result, ht.effects⟩, retells_iff_beside.mpr hfinish⟩

end Browser

/-! ## Chats and pages -/

/-- What comes of runs of a chat in which the same texts come back. -/
structure Host.Run.Retold (r r' : Host.Run) : Prop where
  /-- Every turn comes to the same but for what is told of the answer. -/
  turns : List.Forall₂ Turn.Retold r.turns r'.turns
  chat : r'.chat = r.chat
  /-- With every answer that is found an exchange ends as its text says. -/
  ends : ∀ t ∈ r.turns ++ r'.turns, ∀ a, t.found? = some a → ∃ p, t.Ends a p

/-- The text of a response decides, and its status is told of: chats and pages with the same texts and other statuses
come to the same. -/
theorem status_decides_nothing {r r' : Host.Run} (h : r.Retells r') {b b' : Browser} (hb : b.Retells b')
    {ms ms' : List Browser.Move} (hms : List.Forall₂ (Browser.Move.Alike Page.Reply.Retold) ms ms') :
    Exchange.Transports ∧ r.Retold r' ∧ Browser.Retold b b' ms ms' := by
  obtain ⟨hturns, hchat⟩ := Host.Run.retold h
  exact ⟨Exchange.transports, ⟨hturns, hchat, fun t _ a => Turn.ends_found⟩, Browser.retold hb hms⟩

/-! ### One question -/

/-- One exchange is made and run to its end; this arrives for it. -/
def Host.asking (a : Arrival) : Host.Run where
  config := .standard
  renderer := .standard
  store := .ofEntries []
  view := {}
  script := ⟨[.ready a], [], a⟩
  supply := ⟨fun _ => .ofOctets (.replicate 8 0), 0⟩
  moves := [.type "hi", .send, .poll 0]

def Browser.asking (r : Page.Reply) : Browser := opened (.plain r) ⟨fun _ => .ofOctets (.replicate 8 0), 0⟩

def Http.nearby : Url := ⟨"http", some { host := .ipv4 0x7F000001 }, .segments ["chat"], none, none⟩

/-- `"yes"`, over a connection with the status 200 and on a page with the status 500. -/
theorem status_decides_nothing_yes :
    let sent : Http.Response := ⟨200, [34, 121, 101, 115, 34], 0⟩
    let a := (Http.Reaction.answered sent).arrival Http.nearby
    let a' := (Page.Reply.response 500 (.text "\"yes\"")).arrival "/chat"
    let b := Browser.asking (.response 200 (.text "\"yes\""))
    let b' := Browser.asking (.response 500 (.text "\"yes\""))
    let ms : List Browser.Move := [.mount .standard, .type 0 "hi", .key 0 "Enter" Browser.keyEvent, .run]
    (Host.asking a).Retells (Host.asking a') ∧ b.Retells b' ∧
      List.Forall₂ (Browser.Move.Alike Page.Reply.Retold) ms ms ∧
      Exchange.Transports ∧ (Host.asking a).Retold (Host.asking a') ∧ Browser.Retold b b' ms ms := by
  intro sent a a' b b' ms
  have hsent : Answered Http.nearby.text 200 "\"yes\"" a := .connection rfl rfl rfl (by decide +kernel)
  have hretold : Retold a a' := .response hsent .page
  have hreply : Page.Reply.Retold (.response 200 (.text "\"yes\"")) (.response 500 (.text "\"yes\"")) :=
    fun url => .response .page .page
  have h : (Host.asking a).Retells (Host.asking a') :=
    ⟨rfl, ⟨.cons (.ready hretold) .nil, .nil, hretold⟩, List.forall₂_same.mpr fun m _ => .same m⟩
  have hb : b.Retells b' := ⟨rfl, ⟨.nil, .nil, hreply⟩⟩
  have hms : List.Forall₂ (Browser.Move.Alike Page.Reply.Retold) ms ms := List.forall₂_same.mpr fun m _ => .same m
  exact ⟨h, hb, hms, status_decides_nothing h hb hms⟩

end Parley

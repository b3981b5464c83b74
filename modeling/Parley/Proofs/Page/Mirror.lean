import Mathlib.Data.List.Forall2
import Parley.Page.Browser
import Parley.Proofs.Exchange.Script
import Parley.Proofs.Page.Surface

/-!
# A page mirrors its transcripts

* `Source`, `Source.node` : what an entry is made of, and the node that shows it: what was typed is text, and only a
  reply is markup; `Source.Backs` : where that comes from, in a conversation;
* `Showing` : an entry of a widget that was shown, or tried to; `Browser.Has` : its widget, and its source;
* `Mirrors` : what is added to transcripts is shown in the same order; `Mirrors.trans`; `Shows` : and so far as the page
  does not refuse it;
* `act_shows` : whatever a widget's chat does on a page.
-/

namespace Parley

namespace Page

open Controller (Deed Does Pending Talk)
open Transcript (Entry Role)

/-! ## What entries are made of -/

inductive Source
  /-- What was typed. -/
  | typed (input : String)
  /-- The body of a response. -/
  | reply (body : Json.Value)
  /-- The empty line after a reply. -/
  | gap

namespace Source

def role : Source → Role
  | typed _ => .user
  | reply _ => .bot
  | gap => .spacer

def node (label : String) : Source → Node
  | typed input => ⟨"div", "message user-message", some (.text (label ++ ": " ++ input))⟩
  | reply body =>
    ⟨"div", "message bot-message", some (.html (Markdown.Renderer.standard.render (Exchange.replyText body)))⟩
  | gap => ⟨"br", "", none⟩

def html? : Source → Option String
  | reply body => some (Markdown.Renderer.standard.render (Exchange.replyText body))
  | typed _ | gap => none

/-- What exchange `id` of a conversation has to do with it. -/
def Backs (t : Talk) (id : Exchange.Id) : Source → Prop
  | typed input => (id, input) ∈ t.pending.map Pending.core
  | reply _ | gap => t.tracker.state? id = some .delivered

structure Of (t : Talk) (source : Source) (e : Entry) : Prop where
  role : e.role = source.role
  node : Node.ofEntry e = source.node t.config.userLabel
  exchange : ∃ id, e.exchange = some id ∧ source.Backs t id

def ofDeed : Deed → List Source
  | .opened p => [.typed p.input]
  | .delivered _ body => [.reply body, .gap]
  | .quiet | .scrolled | .failed .. => []

theorem reply_of_deed {d : Deed} {body : Json.Value} (h : reply body ∈ ofDeed d) : ∃ id, d = .delivered id body := by
  cases d with
  | quiet | scrolled | failed => exact (List.not_mem_nil h).elim
  | opened p => exact nomatch List.mem_singleton.mp h
  | delivered id body' =>
    rcases List.mem_cons.mp h with h | h
    · obtain rfl := Source.reply.inj h
      exact ⟨id, rfl⟩
    · exact nomatch List.mem_singleton.mp h

/-- What a deed shows is made of what was typed, or of the reply. -/
theorem of_does {c : Controller} {d : Deed} {t : Talk} {vs : List Transcript.ViewCall} {ns : List String}
    (h : Does c d t vs ns) (hs : c.talk.Sound) (standard : c.renderer = .standard) :
    List.Forall₂ (Of t) (ofDeed d) (vs.filterMap Transcript.ViewCall.entry?) := by
  have hstate := h.state? hs
  cases h with
  | quiet | phased | scrolled | failed => exact .nil
  | opened hb =>
    refine .cons ⟨rfl, rfl, _, rfl, ?_⟩ .nil
    exact List.mem_map.mpr ⟨c.next, List.mem_append_right _ (List.mem_singleton_self _), rfl⟩
  | @delivered k p body hp live =>
    have hd := (hstate p.exchange).trans (if_pos rfl)
    refine .cons ⟨rfl, ?_, _, rfl, hd⟩ (.cons ⟨rfl, rfl, _, rfl, hd⟩ .nil)
    show Node.ofEntry (c.botEntry p.exchange body) = _
    rw [Controller.botEntry, standard]
    rfl

theorem Of.goes {t t' : Talk} {source : Source} {e : Entry} (h : source.Of t e) (goes : t.Goes t') :
    source.Of t' e := by
  obtain ⟨hrole, hnode, id, hid, hback⟩ := h
  refine ⟨hrole, goes.config.symm ▸ hnode, id, hid, ?_⟩
  cases source with
  | typed input => exact goes.cores.subset hback
  | reply | gap => exact goes.settled id .delivered hback rfl

end Source

/-! ## What is shown -/

/-- An entry of a widget. -/
structure Showing extends Painting where
  widget : Nat
  source : Source

structure Widget.Goes (w w' : Widget) : Prop where
  container : w'.container = w.container
  url : w'.url = w.url
  talk : w.chat.talk.Goes w'.chat.talk

theorem Widget.Goes.trans {w w' w'' : Widget} (h : w.Goes w') (h' : w'.Goes w'') : w.Goes w'' :=
  ⟨h'.container.trans h.container, h'.url.trans h.url, h.talk.trans h'.talk⟩

/-- The conversation of a widget is sound, its replies are rendered in the one way there is, and its container is on the
page. -/
structure Widget.Sound (p : Page) (w : Widget) : Prop where
  talk : w.chat.talk.Sound
  standard : w.chat.renderer = .standard
  container : (p.childrenOf? w.container).isSome = true

theorem Widget.Sound.on {p p' : Page} {w : Widget} (h : w.Sound p)
    (elements : ∀ e, (p'.childrenOf? e).isSome = (p.childrenOf? e).isSome) : w.Sound p' :=
  ⟨h.talk, h.standard, (elements w.container).trans h.container⟩

def Replied (p : Page) (w : Widget) (body : Json.Value) : Prop :=
  ∃ reply, p.replies.Offers reply ∧ (reply.arrival w.url).result = .ok body

end Page

namespace Browser

open Page (Effect Heeds Paints Showing Widget)
open Transcript (Entry)

def Sound (b : Browser) : Prop := ∀ w ∈ b.widgets, w.Sound b.page

/-- The entries of a widget; none before it is mounted. -/
def entries (b : Browser) (i : Nat) : List Entry :=
  ((b.widgets[i]?).map fun w => w.chat.transcript.entries).getD []

/-- The entry is one of its widget's, for its container, and made of its source. -/
structure Has (b : Browser) (s : Showing) (w : Widget) : Prop where
  mounted : b.widgets[s.widget]? = some w
  element : s.element = w.container
  source : s.source.Of w.chat.talk s.entry
  replied : ∀ body, s.source = .reply body → Page.Replied b.page w body

/-- From one browser to the other transcripts have grown, and what they have grown by was shown. -/
structure Mirrors (b b' : Browser) (seen : List Effect) (ss : List Showing) : Prop where
  sound : b'.Sound
  paints : Paints b.page b'.page seen (ss.map Showing.toPainting)
  entries : ∀ i, b'.entries i = b.entries i ++ (ss.filter fun s => s.widget == i).map fun s => s.entry
  sources : ∀ s ∈ ss, ∃ w, b'.Has s w
  widgets : ∀ (i : Nat) (w : Widget), b.widgets[i]? = some w → ∃ w', b'.widgets[i]? = some w' ∧ w.Goes w'
  replies : ∀ reply, b.page.replies.Offers reply → b'.page.replies.Offers reply

section Mirrors
variable {b b' b'' : Browser} {seen seen' : List Effect} {ss ss' : List Showing}

theorem Mirrors.trans (h : Mirrors b b' seen ss) (h' : Mirrors b' b'' seen' ss') :
    Mirrors b b'' (seen ++ seen') (ss ++ ss') := by
  refine ⟨h'.sound, ?_, fun i => ?_, fun s hs => ?_, fun i w hw => ?_, fun r hr => h'.replies r (h.replies r hr)⟩
  · rw [List.map_append]
    exact h.paints.trans h'.paints
  · rw [h'.entries, h.entries, List.filter_append, List.map_append, List.append_assoc]
  · rcases List.mem_append.mp hs with hs | hs
    · obtain ⟨w, hw⟩ := h.sources s hs
      obtain ⟨w', hw', goes⟩ := h'.widgets s.widget w hw.mounted
      refine ⟨w', hw', hw.element.trans goes.container.symm, hw.source.goes goes.talk, fun body hbody => ?_⟩
      obtain ⟨reply, hoffers, hsays⟩ := hw.replied body hbody
      exact ⟨reply, h'.replies reply hoffers, goes.url.symm ▸ hsays⟩
    · exact h'.sources s hs
  · obtain ⟨w', hw', goes⟩ := h.widgets i w hw
    obtain ⟨w'', hw'', goes'⟩ := h'.widgets i w' hw'
    exact ⟨w'', hw'', goes.trans goes'⟩

/-- Nothing is said, and nothing is done to nodes. -/
theorem Mirrors.unshown (sound : b'.Sound) (children : ∀ e, b'.page.childrenOf? e = b.page.childrenOf? e)
    (marks : seen.filter Effect.isMark = []) (entries : ∀ i, b'.entries i = b.entries i)
    (widgets : ∀ (i : Nat) (w : Widget), b.widgets[i]? = some w → ∃ w', b'.widgets[i]? = some w' ∧ w.Goes w')
    (replies : ∀ reply, b.page.replies.Offers reply → b'.page.replies.Offers reply) : Mirrors b b' seen [] :=
  ⟨sound, .still children marks, fun i => (entries i).trans (List.append_nil _).symm,
    fun _ hs => (List.not_mem_nil hs).elim, widgets, replies⟩

theorem Mirrors.still (sound : b.Sound) (widgets : b'.widgets = b.widgets)
    (children : ∀ e, b'.page.childrenOf? e = b.page.childrenOf? e) (marks : seen.filter Effect.isMark = [])
    (replies : ∀ reply, b.page.replies.Offers reply → b'.page.replies.Offers reply) : Mirrors b b' seen [] := by
  refine .unshown ?_ children marks (fun i => ?_) (fun i w hw => ?_) replies
  · rw [Sound, widgets]
    exact fun w hw => (sound w hw).on fun e => congrArg Option.isSome (children e)
  · rw [Browser.entries, widgets]
    rfl
  · rw [widgets]
    exact ⟨w, hw, rfl, rfl, .refl _⟩

/-- Transcripts are shown so far as the page does not refuse it. -/
structure Shows (b b' : Browser) (seen : List Effect) (ss : List Showing) : Prop extends Mirrors b b' seen ss where
  heeds : Heeds b.page b'.page (ss.map Showing.toPainting)

theorem Shows.trans (h : Shows b b' seen ss) (h' : Shows b' b'' seen' ss') :
    Shows b b'' (seen ++ seen') (ss ++ ss') := by
  refine ⟨h.toMirrors.trans h'.toMirrors, ?_⟩
  rw [List.map_append]
  exact h.heeds.trans h'.heeds

end Mirrors

end Browser

/-! ## What a widget's chat does on a page -/

namespace Page

open Controller (Deed Does)
open Transcript (Entry)

variable {p : Page} {w : Widget}

/-- What a widget's chat does on a page: a reply that it shows is one of the page's. -/
def Deals {α : Type} (p : Page) (w : Widget) (s : Controller.Step α) : Prop :=
  ∃ d, Does (w.chatOn p) d s.state.talk (Controller.Effect.calls s.effects) (Controller.Effect.notices s.effects) ∧
    ∀ id body, d = .delivered id body → Replied p w body

theorem send_deals (p : Page) (w : Widget) : Deals p w (w.chatOn p).send := by
  cases hb : Text.isBlankText (w.chatOn p).input with
  | true =>
    rw [Controller.send_blank hb]
    exact ⟨.quiet, .quiet, nofun⟩
  | false => exact ⟨_, (Controller.send_does hb).2, nofun⟩

theorem key_deals (p : Page) (w : Widget) (k : String) : Deals p w ((w.chatOn p).key k) := by
  cases hk : Controller.isSubmitKey k with
  | true =>
    rw [Controller.key_submit hk]
    exact send_deals p w
  | false =>
    rw [Controller.key_other hk]
    exact ⟨.quiet, .quiet, nofun⟩

theorem load_deals (p : Page) (w : Widget) : Deals p w (w.chatOn p).load :=
  ⟨.scrolled, Controller.load_does _, nofun⟩

theorem sessionId_deals (p : Page) (w : Widget) (fresh : SessionId) : Deals p w ((w.chatOn p).sessionId fresh) := by
  refine ⟨.quiet, ?_, nofun⟩
  unfold Controller.sessionId
  dsimp only
  rw [Controller.Effect.calls_log, Controller.Effect.notices_log]
  exact .quiet

theorem resetSession_deals (p : Page) (w : Widget) : Deals p w (w.chatOn p).resetSession := by
  refine ⟨.quiet, ?_, nofun⟩
  unfold Controller.resetSession
  dsimp only
  rw [Controller.Effect.calls_log, Controller.Effect.notices_log]
  exact .quiet

/-- What arrives without an error is a reply of the page. -/
theorem replied_of_answer {n? : Option Nat} {a : Exchange.Arrival} {body : Json.Value}
    (h : (match n? with
      | none => p.answer? w.url
      | some n => p.arrived? n w.url) = some a) (ha : a.result = .ok body) : Replied p w body := by
  have hreply : ∀ {reply? : Option Reply}, (∀ reply, reply? = some reply → p.replies.Offers reply) →
      reply?.map (Reply.arrival w.url) = some a → Replied p w body := by
    intro reply? hoffers hmap
    obtain ⟨reply, hr, rfl⟩ := Option.map_eq_some_iff.mp hmap
    exact ⟨reply, hoffers reply hr, ha⟩
  cases n? with
  | some n => exact hreply (fun _ => .of_answer) h
  | none =>
    dsimp only at h
    rw [answer?] at h
    cases ho : p.obstacle with
    | none =>
      rw [ho] at h
      exact hreply (fun _ => .of_next) h
    | some o =>
      rw [ho] at h
      obtain rfl := Option.some.inj h
      exact nomatch ha

theorem poll_deals (p : Page) (w : Widget) (fresh : SessionId) (n? : Option Nat) (k : Nat) :
    Deals p w ((w.chatOn p).poll fresh (fun _ _ => match n? with
      | none => p.answer? w.url
      | some n => p.arrived? n w.url) k) := by
  obtain ⟨d, hpolls, hdoes⟩ := Controller.poll_does (w.chatOn p) fresh (fun _ _ => match n? with
    | none => p.answer? w.url
    | some n => p.arrived? n w.url) k
  refine ⟨d, hdoes, ?_⟩
  rintro id body rfl
  obtain ⟨-, -, log, ha⟩ := hpolls.answered
  exact replied_of_answer ha rfl

/-! ## Effects -/

theorem perform_offers {reply : Reply} (h : p.replies.Offers reply) (w : Widget) (e : Controller.Effect) :
    (p.perform w e).1.replies.Offers reply := by
  cases e with
  | view call =>
    cases call with
    | scrollTo => exact h
    | render e =>
      show (p.render w.container e).1.replies.Offers reply
      unfold render
      split
      · exact h
      · dsimp only
        split <;> exact h
  | notify | log => exact h
  | post n r =>
    show (p.send w.url r).1.replies.Offers reply
    unfold send
    split
    · exact h
    · exact h.take

theorem performAll_offers {reply : Reply} (h : p.replies.Offers reply) (w : Widget) (es : List Controller.Effect) :
    (p.performAll w es).1.replies.Offers reply := by
  induction es generalizing p with
  | nil => exact h
  | cons e es ih => exact ih (perform_offers h w e)

theorem carryOut_offers {reply : Reply} (h : p.replies.Offers reply) (w : Widget) (chat : Controller)
    (es : List Controller.Effect) : (p.carryOut w chat es).1.replies.Offers reply := by
  let p₁ : Page := { p.modify w.field fun e => { e with value := chat.input } with storage := chat.store.entries }
  have h₁ : p₁.replies.Offers reply := h
  exact performAll_offers h₁ w es

theorem exists_showings {ss : List Painting} {entries : List Entry} {sources : List Source} {element : Nat}
    {R : Source → Entry → Prop} (hss : ss.map (fun s => (s.element, s.entry)) = entries.map fun e => (element, e))
    (h : List.Forall₂ R sources entries) (i : Nat) :
    ∃ shows : List Showing, shows.map Showing.toPainting = ss ∧ shows.map Showing.source = sources ∧
      (shows.map fun s => s.entry) = entries ∧
      ∀ s ∈ shows, s.widget = i ∧ s.element = element ∧ R s.source s.entry := by
  induction h generalizing ss with
  | nil =>
    obtain rfl := List.map_eq_nil_iff.mp hss
    exact ⟨[], rfl, rfl, rfl, fun _ hs => (List.not_mem_nil hs).elim⟩
  | @cons source entry sources entries hr _ ih =>
    cases ss with
    | nil => exact nomatch hss
    | cons s ss =>
      obtain ⟨hs, hrest⟩ := List.cons.inj hss
      obtain ⟨helement, rfl⟩ := Prod.mk.inj hs
      obtain ⟨shows, rfl, rfl, rfl, hall⟩ := ih hrest
      refine ⟨⟨s, i, source⟩ :: shows, rfl, rfl, rfl, fun s' hs' => ?_⟩
      rcases List.mem_cons.mp hs' with rfl | hs'
      · exact ⟨rfl, helement, hr⟩
      · exact hall s' hs'

theorem filter_widget {shows : List Showing} {i : Nat} (h : ∀ s ∈ shows, s.widget = i) (j : Nat) :
    (shows.filter fun s => s.widget == j) = if j = i then shows else [] := by
  split
  · next hj => exact List.filter_eq_self.mpr fun s hs => beq_iff_eq.mpr ((h s hs).trans hj.symm)
  · next hj => exact List.filter_eq_nil_iff.mpr fun s hs hb => hj ((beq_iff_eq.mp hb).symm.trans (h s hs))

end Page

namespace Browser

open Page (Deals Widget)

variable {b : Browser} {i : Nat} {w w' : Widget}

theorem getElem?_replaced (mounted : b.widgets[i]? = some w) (w' : Widget) (j : Nat) :
    (b.widgets.set i w')[j]? = if j = i then some w' else b.widgets[j]? := by
  obtain ⟨hi, -⟩ := List.getElem?_eq_some_iff.mp mounted
  by_cases hj : j = i
  · subst hj
    rw [if_pos rfl, List.getElem?_set_self hi]
  · rw [if_neg hj, List.getElem?_set_ne (Ne.symm hj)]

theorem entries_eq (mounted : b.widgets[i]? = some w) : b.entries i = w.chat.transcript.entries := by
  rw [Browser.entries, mounted]
  rfl

theorem entries_replaced (mounted : b.widgets[i]? = some w) (w' : Widget) (page : Page) (j : Nat) :
    Browser.entries { b with page, widgets := b.widgets.set i w' } j =
      if j = i then w'.chat.transcript.entries else b.entries j := by
  unfold Browser.entries
  dsimp only
  rw [getElem?_replaced mounted]
  split <;> rfl

theorem Sound.replaced (sound : b.Sound) (h : w'.Sound b.page) : ∀ v ∈ b.widgets.set i w', v.Sound b.page :=
  fun v hv => (List.mem_or_eq_of_mem_set hv).elim (sound v) fun hv => hv ▸ h

theorem goes_replaced (mounted : b.widgets[i]? = some w) (goes : w.Goes w') (j : Nat) (v : Widget)
    (hv : b.widgets[j]? = some v) : ∃ v', (b.widgets.set i w')[j]? = some v' ∧ v.Goes v' := by
  rw [getElem?_replaced mounted]
  by_cases hj : j = i
  · subst hj
    obtain rfl := Option.some.inj (mounted.symm.trans hv)
    exact ⟨w', if_pos rfl, goes⟩
  · exact ⟨v, (if_neg hj).trans hv, rfl, rfl, .refl _⟩

theorem act_eq {α : Type} (b : Browser) (i : Nat) (w : Widget) (f : Controller → Controller.Step α) :
    let s := f (w.chatOn b.page)
    b.act i w f = ⟨s.result,
      { b with
        page := (b.page.carryOut w s.state s.effects).1
        widgets := b.widgets.set i { w with chat := s.state } },
      (b.page.carryOut w s.state s.effects).2⟩ := rfl

/-- Whatever a widget's chat does is shown on the page. -/
theorem act_shows {α : Type} (f : Controller → Controller.Step α) (sound : b.Sound)
    (mounted : b.widgets[i]? = some w) (h : Deals b.page w (f (w.chatOn b.page))) :
    ∃ ss, Shows b (b.act i w f).browser (b.act i w f).effects ss := by
  obtain ⟨d, hdoes, hreplied⟩ := h
  rw [act_eq]
  generalize f (w.chatOn b.page) = s at hdoes
  obtain ⟨hsound, hstandard, hcontainer⟩ := sound w (List.mem_of_getElem? mounted)
  let w' : Widget := { w with chat := s.state }
  have hw' : w'.Sound b.page := ⟨hdoes.sound hsound, hdoes.settings.2.trans hstandard, hcontainer⟩
  have goes : w.Goes w' := ⟨rfl, rfl, hdoes.goes hsound⟩
  obtain ⟨ss, hdraws, hss⟩ := Page.carryOut_draws b.page w s.state s.effects
  have hrendered : s.effects.filterMap Page.rendered? =
      (Controller.Effect.calls s.effects).filterMap Transcript.ViewCall.entry? :=
    List.filterMap_filterMap.symm
  rw [hrendered] at hss
  obtain ⟨shows, rfl, hsources, hadded, hall⟩ :=
    Page.exists_showings hss (Page.Source.of_does hdoes hsound hstandard) i
  refine ⟨shows, ⟨?_, hdraws.toPaints, fun j => ?_, fun v hv => ?_, ?_, ?_⟩, hdraws.toHeeds⟩
  · exact fun v hv => (sound.replaced hw' v hv).on hdraws.isSome_childrenOf?
  · rw [entries_replaced mounted, Page.filter_widget fun v hv => (hall v hv).1]
    split
    · next hj =>
      rw [hj, entries_eq mounted, hadded]
      exact hdoes.entries
    · exact (List.append_nil _).symm
  · obtain ⟨rfl, helement, hsource⟩ := hall v hv
    refine ⟨w', (getElem?_replaced mounted _ _).trans (if_pos rfl), helement, hsource, fun body hbody => ?_⟩
    have hmem : Page.Source.reply body ∈ Page.Source.ofDeed d := by
      rw [← hsources, ← hbody]
      exact List.mem_map_of_mem hv
    obtain ⟨id, rfl⟩ := Page.Source.reply_of_deed hmem
    obtain ⟨reply, hoffers, hsays⟩ := hreplied id body rfl
    exact ⟨reply, Page.carryOut_offers hoffers w s.state s.effects, hsays⟩
  · exact goes_replaced mounted goes
  · exact fun reply h => Page.carryOut_offers h w s.state s.effects

end Browser

end Parley

import Parley.Proofs.Config.Normalized
import Parley.Proofs.Exchange.Wire
import Parley.Proofs.Host.Run
import Parley.Proofs.Page.Visit
import Parley.Proofs.Terminal.Dialogue

/-!
# One configuration for all parts

A host makes several parts of one configuration, each at another stage: a transport, a session, and a chat, which
normalizes it once more.

* `Browser.act_requested` : the requests of a widget go to its URL;
* `Browser.Directed`, `Browser.directed_run` : that is the URL of its chat's configuration, from mounting on;
* `Terminal.Client.Agrees`, `Terminal.Client.prepare_agrees` : the service, the session and the chat of a client;
* `Controller.start_congr`, `Host.Run.turns_under` : a chat does not tell a configuration from its normal form;
* `Config.agreement` : all of this.
-/

namespace Parley

/-! ## Widgets -/

namespace Page

variable {p : Page} {w : Widget} {post : Http.Post}

/-- Only what a chat posts becomes a request, and it goes to the URL of the widget. -/
theorem perform_requested {e : Controller.Effect} (h : Effect.requested post ∈ (p.perform w e).2) :
    post.target = w.url := by
  cases e with
  | post n r =>
    obtain ⟨-, rfl⟩ := (p.requested_iff w.url r post).mp h
    rfl
  | log e => simp [perform] at h
  | notify message =>
    unfold perform alert at h
    dsimp only at h
    split at h <;> simp at h
  | view call =>
    cases call with
    | scrollTo offset => simp [perform, scrollTo] at h
    | render e =>
      unfold perform render at h
      dsimp only at h
      split at h
      · simp at h
      · split at h <;> simp at h

theorem performAll_requested {es : List Controller.Effect} (h : Effect.requested post ∈ (p.performAll w es).2) :
    post.target = w.url := by
  induction es generalizing p with
  | nil => simp [performAll] at h
  | cons e es ih =>
    rcases List.mem_append.mp h with h | h
    · exact perform_requested h
    · exact ih h

end Page

namespace Browser

open Page (Effect Options Widget)

/-- Whatever a widget's chat does, its requests go to the URL of the widget. -/
theorem act_requested {α : Type} {b : Browser} {i : Nat} {w : Widget} {f : Controller → Controller.Step α}
    {post : Http.Post} (h : Effect.requested post ∈ (b.act i w f).effects) : post.target = w.url :=
  Page.performAll_requested h

/-- Widget `i` has this configuration, and its requests go where that says. -/
structure Directed (b : Browser) (i : Nat) (config : Config) : Prop where
  chat : ∃ w, b.widgets[i]? = some w ∧ w.chat.config = config
  requests : ∀ w, b.widgets[i]? = some w → w.url = w.chat.config.requestUrl ∧
    ∀ (α : Type) (f : Controller → Controller.Step α) (post : Http.Post),
      Effect.requested post ∈ (b.act i w f).effects → post.target = w.chat.config.requestUrl

theorem directed_of_url {b : Browser} {i : Nat} {w : Widget} {config : Config} (mounted : b.widgets[i]? = some w)
    (chat : w.chat.config = config) (url : w.url = config.requestUrl) : b.Directed i config := by
  refine ⟨⟨w, mounted, chat⟩, fun w' hw' => ?_⟩
  obtain rfl := Option.some.inj (mounted.symm.trans hw')
  rw [chat]
  exact ⟨url, fun α f post h => (act_requested h).trans url⟩

/-- A widget is made of the normal form of its configuration. -/
theorem directed_mount {b : Browser} {o : Options} {i : Nat} (h : (b.mount o).result = .ok i) :
    (b.mount o).browser.Directed i o.config.normalized := by
  obtain ⟨w, hw, -, hchat, hurl⟩ := mount_ok h
  exact directed_of_url hw (hchat.trans (Config.normalized_normalized _)) hurl

/-- Whatever happens to a page, configurations and URLs stay as they are. -/
theorem Directed.run {b : Browser} {i : Nat} {config : Config} (sound : b.Sound) (h : b.Directed i config)
    (ms : List Move) : (ms.foldl next b).Directed i config := by
  obtain ⟨w, hw, hchat⟩ := h.chat
  obtain ⟨shown, -, hmirrors⟩ := run_mirrors sound ms
  obtain ⟨w', hw', goes⟩ := hmirrors.widgets i w hw
  have hconfig : w'.chat.config = config := goes.talk.config.trans hchat
  refine directed_of_url hw' hconfig ?_
  rw [goes.url, (h.requests w hw).1, hchat]

theorem directed_run (page : Page) (supply : Session.Supply) (ms : List Move) {o : Options} {i : Nat}
    (h : ((ms.foldl next (opened page supply)).mount o).result = .ok i) (ms' : List Move) :
    (ms'.foldl next ((ms.foldl next (opened page supply)).mount o).browser).Directed i o.config.normalized := by
  obtain ⟨ss, hshows⟩ := mount_shows (sound_run page supply ms) o
  exact (directed_mount h).run hshows.sound ms'

end Browser

/-! ## The terminal client -/

namespace Terminal.Client

/-- The chat of a client has this configuration, and goes on with the session that was asked for. -/
structure Agrees (config : Config) (session : Option SessionId) (c : Client) : Prop where
  chat : c.chat.config = config
  /-- An id is adopted under the key that the chat reads. -/
  adopted : ∀ id, session = some id →
    c.chat.store = (Session.Identity.adopt c.chat.config.sessionKey id (.ofEntries [])).store
  /-- The first id that the chat tells is the one that was given. -/
  first : ∀ id, session = some id → ∀ fresh, (c.chat.sessionId fresh).result = .ok id

theorem start_store {config : Config} {id : SessionId} {screen : Screen} {c : Client} {os : List Output}
    (h : Client.start config (some id) screen = .ok ⟨c, os⟩) :
    c.chat.store = (Session.Identity.adopt config.sessionKey id (.ofEntries [])).store := by
  unfold Client.start at h
  dsimp only at h
  cases hr : (Session.Identity.adopt config.sessionKey id (.ofEntries [])).result with
  | error e =>
    rw [hr] at h
    exact nomatch h
  | ok u =>
    rw [hr] at h
    have ht := Except.ok.inj h
    exact (congrArg (fun t : Turn => t.client.chat.store) ht).symm

theorem start_agrees {config : Config} (h : config.Tidy) (session : Option SessionId) (screen : Screen) :
    ∃ t, Client.start config session screen = .ok t ∧ t.client.Agrees config session := by
  obtain ⟨c, hstart, ready, hid, -⟩ := start_ready h.normalized session screen
  refine ⟨⟨c, []⟩, hstart, ready.config, ?_, ?_⟩
  · rintro id rfl
    rw [ready.config]
    exact start_store hstart
  · rintro id rfl fresh
    obtain ⟨told, s, log, hestablish, -, -, hsame⟩ :=
      Session.Identity.establish_unrefused ready.store c.chat.config.sessionKey fresh
    unfold Controller.sessionId
    dsimp only
    rw [hestablish, hsame id hid]

/-- The service, the session and the chat of a client go by one configuration. -/
theorem prepare_agrees {fs : Flags} {loading : Config.Loading} {config : Config}
    (h : fs.configuration loading = .ok config) (screen : Screen) :
    ∃ t : Turn, t.client.Agrees config fs.sessionId? ∧
      Client.prepare fs loading screen = ((Http.endpoint t.client.chat.config.requestUrl).mapError
        (.config "build-backend")).map fun url => (url, t.after [.log (connected url config)]) := by
  obtain ⟨t, hstart, hagrees⟩ := start_agrees (Flags.tidy_configuration h) fs.sessionId? screen
  refine ⟨t, hagrees, ?_⟩
  unfold prepare
  rw [h, hagrees.chat]
  dsimp only
  unfold Http.endpointOf
  cases Http.endpoint config.requestUrl with
  | error e => rfl
  | ok url =>
    dsimp only
    rw [hstart]
    rfl

end Terminal.Client

/-! ## Chats -/

/-- A chat does not tell configurations apart that have one normal form. -/
theorem Controller.start_congr {config config' : Config} (h : config'.normalized = config.normalized)
    (renderer : Markdown.Renderer) (store : Session.Store) (view : Transcript.View) :
    start config' renderer store view = start config renderer store view := by
  unfold start
  rw [h]

namespace Host.Run

variable (r : Run) {config : Config}

def under (config : Config) : Run := { r with config }

theorem begin_under (h : config.normalized = r.config.normalized) : (r.under config).begin = r.begin := by
  unfold begin under
  dsimp only
  rw [Controller.start_congr h]

theorem turns_under (h : config.normalized = r.config.normalized) : (r.under config).turns = r.turns := by
  unfold turns
  rw [r.begin_under h]
  rfl

theorem finish_under (h : config.normalized = r.config.normalized) : (r.under config).finish = r.finish := by
  unfold finish
  rw [r.begin_under h]
  rfl

end Host.Run

/-- Whatever is made of a configuration goes by one normal form of it. -/
theorem Config.agreement :
    (∀ c : Config, c.normalized.normalized = c.normalized ∧ c.normalized.Tidy ∧ (c.normalized = c ↔ c.Tidy)) ∧
    (∀ (page : Page) (supply : Session.Supply) (ms ms' : List Browser.Move) (o : Page.Options) (i : Nat),
      let b := ms.foldl Browser.next (Browser.opened page supply)
      (b.mount o).result = .ok i → (ms'.foldl Browser.next (b.mount o).browser).Directed i o.config.normalized) ∧
    (∀ (fs : Terminal.Flags) (loading : Loading) (config : Config), fs.configuration loading = .ok config →
      config.Tidy ∧ ∀ screen : Terminal.Screen, ∃ t : Terminal.Turn, t.client.Agrees config fs.sessionId? ∧
        Terminal.Client.prepare fs loading screen = ((Http.endpoint t.client.chat.config.requestUrl).mapError
          (.config "build-backend")).map fun url => (url, t.after [.log (Terminal.Client.connected url config)])) ∧
    ∀ r : Host.Run, (r.under r.config.normalized).turns = r.turns ∧ (r.under r.config.normalized).finish = r.finish := by
  refine ⟨fun c => ?_, fun page supply ms ms' o i h => ?_, fun fs loading config h => ?_, fun r => ?_⟩
  · exact ⟨c.normalized_normalized, c.tidy_normalized, c.normalized_eq_self_iff⟩
  · exact Browser.directed_run page supply ms h ms'
  · exact ⟨Terminal.Flags.tidy_configuration h, Terminal.Client.prepare_agrees h⟩
  · have h := r.config.normalized_normalized
    exact ⟨r.turns_under h, r.finish_under h⟩

/-! ### Blank and untrimmed texts -/

def Page.front : Page where
  elements := [{ tag := "input", id := "user-input" }, { tag := "div", id := "chat-box" }]
  query _ _ := .ok none
  replies := { queue := [], last := .response 200 (.text "\x7b\x7d") }

def Page.Options.untidy : Page.Options := { config := { baseUrl := some " http://[::1]:8000 ", agentName := "\t" } }

def Session.Supply.constant : Session.Supply := ⟨fun _ => ⟨"0000-0000-0000-0001", rfl⟩, 0⟩

theorem Config.agreement_untidy :
    let b := Browser.opened .front .constant
    ((b.mount .untidy).result = .ok 0 ∧
      (b.mount .untidy).browser.Directed 0 { baseUrl := some "http://[::1]:8000" }) ∧
    Terminal.Flags.configuration { agent? := some "\t" } ⟨.ok .standard, []⟩ =
      .ok { baseUrl := some Terminal.Flags.fallbackBaseUrl } ∧
    Config.Tidy { baseUrl := some Terminal.Flags.fallbackBaseUrl } := by
  intro b
  have hmount : (b.mount .untidy).result = .ok 0 := rfl
  have hnormal : Page.Options.untidy.config.normalized = { baseUrl := some "http://[::1]:8000" } := by decide +kernel
  have hflags : Terminal.Flags.configure { agent? := some "\t" } .standard =
      { baseUrl := some Terminal.Flags.fallbackBaseUrl } := by
    decide +kernel
  have hload : Terminal.Flags.configuration { agent? := some "\t" } ⟨.ok .standard, []⟩ =
      .ok { baseUrl := some Terminal.Flags.fallbackBaseUrl } := congrArg Except.ok hflags
  refine ⟨⟨hmount, ?_⟩, hload, ?_⟩
  · rw [← hnormal]
    exact agreement.2.1 .front .constant [] [] .untidy 0 hmount
  · exact (agreement.2.2.1 _ ⟨.ok .standard, []⟩ _ hload).1

end Parley

import Parley.Proofs.Config.Normalized
import Parley.Proofs.Terminal.Line

/-!
# The client from its start to its end

* `obeyed`, `asks` : the lines that are carried out, and those of them that are sent; `ending` : how the client ends;
* `Carried` : what carrying lines out comes to; `Carried.cons`, `run_carried` : one line after another;
* `start_ready` : the client is ready in the session that was asked for;
* `Dialogue` : what the client does from its start to its end.
-/

namespace Parley.Terminal

/-- The lines before the first that ends the client, or is no text. -/
def obeyed : List (Option String) → List String
  | some line :: lines =>
    if Text.trim line = "/quit" ∨ Text.trim line = "/exit" then [] else line :: obeyed lines
  | _ => []

/-- How the client ends: only a line that is no text makes it fail. -/
def ending (lines : List (Option String)) : Ending :=
  if lines[(obeyed lines).length]? = some none then .failed Client.unreadable else .done

/-- The line is neither blank nor a command. -/
def asks (line : String) : Bool :=
  !Text.isBlankText line && Text.trim line ≠ "/session" && Text.trim line ≠ "/reset"

theorem parse_quit {line : String} :
    Command.parse line = .quit ↔ Text.trim line = "/quit" ∨ Text.trim line = "/exit" := by
  constructor
  · intro h
    by_contra hne
    rw [Command.parse, if_neg hne] at h
    split at h
    · exact nomatch h
    · split at h <;> exact nomatch h
  · intro h
    exact if_pos h

theorem obeyed_quit {line : String} (h : Command.parse line = .quit) (lines : List (Option String)) :
    obeyed (some line :: lines) = [] :=
  if_pos (parse_quit.mp h)

theorem obeyed_cons {line : String} (h : Command.parse line ≠ .quit) (lines : List (Option String)) :
    obeyed (some line :: lines) = line :: obeyed lines :=
  if_neg fun hq => h (parse_quit.mpr hq)

namespace Act

theorem Follows.input {agent line : String} {a : Act} (h : Follows agent line a) :
    (a.exchange?.map fun e => e.1.input) = if asks line then some line else none := by
  have hasks : asks line = a.exchange?.isSome := by
    cases h with
    | idle blank => simp [asks, blank, exchange?]
    | shown command | forgot command => simp [asks, command, exchange?]
    | asked blank show' reset => simp [asks, blank, show', reset, exchange?]
  rw [hasks]
  cases h <;> rfl

theorem inputs_eq {agent : String} {lines : List String} {acts : List Act}
    (h : List.Forall₂ (Follows agent) lines acts) :
    ((acts.filterMap exchange?).map fun e => e.1.input) = lines.filter asks := by
  induction h with
  | nil => rfl
  | @cons line a lines acts hline _ ih =>
    rw [List.map_filterMap] at ih ⊢
    rw [List.filterMap_cons, hline.input, List.filter_cons, ih]
    cases asks line <;> rfl

end Act

/-- What carrying lines out comes to. -/
structure Carried {σ : Type} (config : Config) (screen : Screen)
    (answer : σ → Exchange.Request → Exchange.Arrival × σ) (r r' : Client.Run σ) (lines : List String)
    (acts : List Act) : Prop where
  follows : List.Forall₂ (Act.Follows config.agentName) lines acts
  threaded : Act.Threaded answer r.transport acts
  kept : Act.Kept r.client.id? acts
  requests : Output.requests r'.outputs = Output.requests r.outputs ++ (acts.filterMap Act.exchange?).map Prod.fst
  complaints : Output.complaints r'.outputs =
    Output.complaints r.outputs ++ acts.flatMap (Act.complaints config.failureMessage)
  prints : screen.echo = true → screen.broken = none → String.join (Output.prints r'.outputs) =
    String.join (Output.prints r.outputs) ++ String.join (acts.map (Act.printed config.userLabel))
  others : ∀ i ≤ r.client.chat.tracker.started,
    r'.client.chat.exchangeState? i = r.client.chat.exchangeState? i
  asked : ∀ k e, (acts.filterMap Act.exchange?)[k]? = some e →
    r'.client.chat.exchangeState? (r.client.chat.tracker.started + k + 1) = some (Act.state e.2)

section Run
variable {σ : Type} {config : Config} {screen : Screen} {answer : σ → Exchange.Request → Exchange.Arrival × σ}
  {r r' r'' : Client.Run σ} {line : String} {lines : List String} {a : Act} {acts : List Act}

theorem Carried.nil (r : Client.Run σ) : Carried config screen answer r r [] [] where
  follows := .nil
  threaded := trivial
  kept := trivial
  requests := (List.append_nil _).symm
  complaints := (List.append_nil _).symm
  prints _ _ := by rw [List.map_nil, String.join_nil, String.append_empty]
  others _ _ := rfl
  asked _ _ h := nomatch h

theorem Carried.cons (hd : Done config screen answer r r' a) (hf : Act.Follows config.agentName line a)
    (h : Carried config screen answer r' r'' lines acts) :
    Carried config screen answer r r'' (line :: lines) (a :: acts) := by
  obtain ⟨os, hos, hshows⟩ := hd.outputs
  have hle : r.client.chat.tracker.started ≤ r'.client.chat.tracker.started := by
    rw [hd.settles.started]
    exact Nat.le_add_right _ _
  refine ⟨.cons hf h.follows, hd.threaded acts h.threaded, ⟨hd.kept, ?_⟩, ?_, ?_, fun echo unbroken => ?_,
    fun i hi => (h.others i (hi.trans hle)).trans (hd.settles.others i hi), ?_⟩
  · rw [← hd.next]
    exact h.kept
  · rw [h.requests, hos, Output.requests_append, hshows.requests, List.append_assoc, List.filterMap_cons]
    cases a.exchange? <;> rfl
  · rw [h.complaints, hos, Output.complaints_append, hshows.complaints, List.append_assoc, List.flatMap_cons]
  · rw [h.prints echo unbroken, hos, Output.prints_append, String.join_append, hshows.prints echo unbroken,
      String.append_assoc, List.map_cons, String.join_cons]
  · have hstarted := hd.settles.started
    intro k e hk
    rw [List.filterMap_cons] at hk
    cases ha : a.exchange? with
    | none =>
      rw [ha] at hk hstarted
      have hlater := h.asked k e hk
      rw [hstarted] at hlater
      exact hlater
    | some e₀ =>
      rw [ha] at hk hstarted
      cases k with
      | zero =>
        obtain rfl := Option.some.inj hk
        exact (h.others _ hstarted.ge).trans (hd.settles.asked e₀ ha)
      | succ k =>
        have hlater := h.asked k e hk
        rw [hstarted] at hlater
        rw [← hlater]
        congr 1
        show _ = _ + 1 + k + 1
        omega

/-- Lines are carried out one after another, until one ends the client or none is left. -/
theorem run_carried (told : screen.mute = none) {lines : List (Option String)}
    (shown : screen.broken = none ∨ ∀ line ∈ obeyed lines, Text.trim line ≠ "/session")
    (h : Ready config screen r.client) :
    ∃ r' acts, Client.run answer r lines = (r', ending lines) ∧
      Carried config screen answer r r' (obeyed lines) acts := by
  induction lines generalizing r with
  | nil => exact ⟨r, [], rfl, .nil r⟩
  | cons line lines ih =>
    cases line with
    | none => exact ⟨r, [], rfl, .nil r⟩
    | some line =>
      by_cases hc : Command.parse line = .quit
      · have hnone := obeyed_quit hc lines
        refine ⟨r, [], ?_, ?_⟩
        · rw [Client.run, line_quit hc, ending, hnone]
          rfl
        · rw [hnone]
          exact .nil r
      · have hcons := obeyed_cons hc lines
        have hending : ending (some line :: lines) = ending lines := by
          rw [ending, hcons]
          rfl
        rw [hcons, List.forall_mem_cons] at shown
        obtain ⟨a, r', hline, hd, hf⟩ := line_done h told (shown.imp_right And.left) hc
        obtain ⟨r'', acts, hrun, hcarried⟩ := ih (shown.imp_right And.right) hd.ready
        refine ⟨r'', a :: acts, ?_, ?_⟩
        · rw [Client.run, hline, hending]
          exact hrun
        · rw [hcons]
          exact hcarried.cons hd hf

end Run

/-! ## The start -/

/-- A client with nothing said, in the session that was asked for. -/
structure Fresh (config : Config) (session : Option SessionId) (screen : Screen) (c : Client) : Prop where
  ready : Ready config screen c
  session : c.id? = session
  tracker : c.chat.tracker = {}

theorem start_ready {config : Config} (normalized : config.normalized = config) (session : Option SessionId)
    (screen : Screen) : ∃ c, Client.start config session screen = .ok ⟨c, []⟩ ∧ Fresh config session screen c := by
  have hopen : (Session.Store.ofEntries []).Open := fun _ => rfl
  cases session with
  | none =>
    let view : Transcript.View := { given := Screen.metrics }
    let chat := Controller.start config .plain (.ofEntries []) view
    exact ⟨⟨chat.load.state, screen, none⟩, rfl,
      ⟨rfl, normalized, rfl, Controller.sound_start config .plain (.ofEntries []) view, hopen⟩, rfl, rfl⟩
  | some id =>
    let store := (Session.Store.ofEntries []).hold config.sessionKey id
    let view : Transcript.View := { given := Screen.metrics }
    let chat := Controller.start config .plain store view
    have hnone : (Session.Store.ofEntries []).id? config.sessionKey = none := rfl
    obtain ⟨hresult, hstore⟩ := Session.Identity.adopt_unrefused hopen hnone id
    refine ⟨⟨chat.load.state, screen, none⟩, ?_,
      ⟨rfl, normalized, rfl, Controller.sound_start config .plain store view, hopen⟩, ?_, rfl⟩
    · unfold Client.start
      dsimp only
      rw [hresult, hstore]
      rfl
    · show store.id? config.normalized.sessionKey = some id
      rw [normalized]
      exact Session.Store.id?_hold _ config.sessionKey id

/-! ## The whole -/

/-- What a client does with lines, from its start to its end. -/
structure Dialogue {σ : Type} (config : Config) (session : Option SessionId) (screen : Screen)
    (answer : σ → Exchange.Request → Exchange.Arrival × σ) (transport : σ) (lines : List (Option String))
    (chat : Controller) (os : List Output) (acts : List Act) : Prop where
  /-- Lines are carried out until one ends the client. -/
  follows : List.Forall₂ (Act.Follows config.agentName) (obeyed lines) acts
  /-- The transport is asked once for every request, in order. -/
  threaded : Act.Threaded answer transport acts
  requests : Output.requests os = (acts.filterMap Act.exchange?).map Prod.fst
  /-- Every line that is neither blank nor a command is sent, as it was typed. -/
  inputs : (Output.requests os).map (·.input) = (obeyed lines).filter asks
  /-- One id is used as long as it is not forgotten. -/
  same : ∀ before stretch after, acts = before ++ (stretch ++ after) → Act.forgot ∉ stretch →
    ∀ a ∈ stretch, ∀ b ∈ stretch, ∀ i ∈ a.id?, ∀ j ∈ b.id?, i = j
  /-- At first it is the one that was given. -/
  given : ∀ id, session = some id → ∀ first after, acts = first ++ after → Act.forgot ∉ first →
    ∀ a ∈ first, ∀ used ∈ a.id?, used = id
  prints : screen.echo = true → screen.broken = none →
    String.join (Output.prints os) = String.join (acts.map (Act.printed config.userLabel))
  complaints : Output.complaints os = acts.flatMap (Act.complaints config.failureMessage)
  /-- What came of an exchange is its state in the end. -/
  states : ∀ k e, (acts.filterMap Act.exchange?)[k]? = some e →
    chat.exchangeState? (k + 1) = some (Act.state e.2)

theorem Carried.dialogue {σ : Type} {config : Config} {session : Option SessionId} {screen : Screen}
    {answer : σ → Exchange.Request → Exchange.Arrival × σ} {lines : List (Option String)}
    {r r' : Client.Run σ} {acts : List Act} (h : Carried config screen answer r r' (obeyed lines) acts)
    (fresh : Fresh config session screen r.client) (log : List Log.Event) (told : r.outputs = log.map .log) :
    Dialogue config session screen answer r.transport lines r'.client.chat r'.outputs acts := by
  obtain ⟨hprints, hcomplaints, hrequests⟩ := Client.projections_log log
  have hkept := h.kept
  rw [fresh.session] at hkept
  have hasked := h.requests
  rw [told, hrequests, List.nil_append] at hasked
  refine ⟨h.follows, h.threaded, hasked, ?_, ?_, ?_, fun echo unbroken => ?_, ?_, ?_⟩
  · rw [hasked, List.map_map]
    exact Act.inputs_eq h.follows
  · rintro before stretch after rfl calm
    exact hkept.stretch calm
  · rintro id rfl first after rfl calm
    exact hkept.same calm
  · rw [h.prints echo unbroken, told, hprints, String.join_nil, String.empty_append]
  · rw [h.complaints, told, hcomplaints, List.nil_append]
  · intro k e hk
    have hstate := h.asked k e hk
    rw [fresh.tracker] at hstate
    rw [← hstate]
    exact congrArg (fun n => r'.client.chat.exchangeState? (n + 1)) (Nat.zero_add k).symm

/-- A command line that names a service and a session. -/
def loopback : Flags := { baseUrl? := some "http://[::1]:8000", sessionId? := some ⟨"0000-0000-0000-0000", rfl⟩ }

def loopbackConfig : Config := { baseUrl := some "http://[::1]:8000" }

def loopbackUrl : Url where
  scheme := "http"
  authority := some { host := .ipv6 [0, 0, 0, 0, 0, 0, 0, 1], port := some 8000 }
  path := .segments ["chat"]

def everyOther : Nat → Exchange.Request → Exchange.Arrival × Nat
  | n, _ =>
    (if n % 2 = 0 then ⟨[], .ok (.text "yes")⟩ else .failure (.transport "send" "[::1]:8000" "refused"), n + 1)

def oneId : Session.Supply := ⟨fun _ => .ofOctets (.replicate 8 0), 0⟩

def loopbackEnding (screen : Screen) (lines : List (Option String)) : Option Ending :=
  (Client.prepare loopback ⟨.ok .standard, []⟩ screen).toOption.map fun (_, t) =>
    (Client.run everyOther ⟨t.client, 0, oneId, t.outputs⟩ lines).2

end Parley.Terminal

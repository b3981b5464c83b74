import Parley.Proofs.Controller.Apart
import Parley.Proofs.Terminal.Act
import Parley.Proofs.Text.Blank

/-!
# One line

* `Ready` : a client between two lines;
* `Done` : a line is carried out, and comes to an act;
* `line_send`, `line_blank`, `line_session`, `line_reset` : the kinds of lines; `line_done` : there is no other.
-/

namespace Parley

namespace Controller

open Effect

variable {c : Controller} {i : Nat}

/-- Who ends with a reply shows it with an empty line after it. -/
theorem calls_complete (c : Controller) (i : Nat) (id : Exchange.Id) (a : Exchange.Arrival) :
    ((calls (c.complete i id a).effects).filterMap Transcript.ViewCall.entry?).map (fun e => e.body) =
      match a.result with
      | .ok body => [.markup (c.renderer.render (Exchange.replyText body)), .empty]
      | .error _ => [] := by
  unfold complete
  dsimp only
  cases a.result with
  | ok body =>
    dsimp only
    rw [calls_append, calls_log, deliver_calls]
    rfl
  | error e =>
    show List.map _ (List.filterMap _ (calls (_ ++ (_ ++ _)))) = []
    rw [calls_append, calls_append, calls_log, calls_settle]
    rfl

theorem notices_complete (c : Controller) (i : Nat) (id : Exchange.Id) (a : Exchange.Arrival) :
    notices (c.complete i id a).effects = match a.result with
      | .ok _ => []
      | .error _ => [c.config.failureMessage] := by
  unfold complete
  dsimp only
  cases a.result with
  | ok body =>
    dsimp only
    rw [notices_append, notices_log, deliver_notices]
    rfl
  | error e =>
    show notices (_ ++ (_ ++ _)) = _
    rw [notices_append, notices_append, notices_log, notices_settle]
    rfl

end Controller

namespace Terminal

/-- A client between two lines: its settings, and a store that refuses nothing. -/
structure Ready (config : Config) (screen : Screen) (c : Client) : Prop where
  screen : c.screen = screen
  config : c.chat.config = config
  plain : c.chat.renderer = .plain
  sound : c.chat.talk.Sound
  store : c.chat.store.Open

def Client.id? (c : Client) : Option SessionId := c.chat.store.id? c.chat.config.sessionKey

structure Shows (config : Config) (screen : Screen) (os : List Output) (a : Act) : Prop where
  requests : Output.requests os = (a.exchange?.map Prod.fst).toList
  complaints : Output.complaints os = a.complaints config.failureMessage
  prints : screen.echo = true → screen.broken = none → String.join (Output.prints os) = a.printed config.userLabel

/-- What has become of the exchanges of a chat after an act. -/
structure Settles (c c' : Controller) (a : Act) : Prop where
  started : c'.tracker.started = c.tracker.started + a.exchange?.toList.length
  others : ∀ i ≤ c.tracker.started, c'.exchangeState? i = c.exchangeState? i
  asked : ∀ e, a.exchange? = some e → c'.exchangeState? (c.tracker.started + 1) = some (Act.state e.2)

/-- A line is carried out and comes to an act. -/
structure Done {σ : Type} (config : Config) (screen : Screen) (answer : σ → Exchange.Request → Exchange.Arrival × σ)
    (r r' : Client.Run σ) (a : Act) : Prop where
  ready : Ready config screen r'.client
  threaded : ∀ acts, Act.Threaded answer r'.transport acts → Act.Threaded answer r.transport (a :: acts)
  kept : ∀ used ∈ a.id?, ∀ i ∈ r.client.id?, used = i
  next : r'.client.id? = a.next r.client.id?
  outputs : ∃ os, r'.outputs = r.outputs ++ os ∧ Shows config screen os a
  settles : Settles r.client.chat r'.client.chat a

/-- An act without an exchange leaves the exchanges as they are. -/
theorem Settles.of_tracker {c c' : Controller} {a : Act} (ht : c'.tracker = c.tracker) (ha : a.exchange? = none) :
    Settles c c' a := by
  refine ⟨?_, fun i _ => congrArg (·.state? i) ht, fun e he => nomatch he.symm.trans ha⟩
  rw [ht, ha]
  rfl

section Line
variable {σ : Type} {config : Config} {screen : Screen} {answer : σ → Exchange.Request → Exchange.Arrival × σ}
  {r : Client.Run σ} {line : String}

theorem turn_eq {t : Turn} (whole : ∀ o ∈ t.outputs, o.fatal? r.client.screen = none) :
    r.turn t = ({ r with client := t.client, outputs := r.outputs ++ t.outputs }, none) := by
  rw [Client.Run.turn, Output.carryOut_eq whole]

theorem line_of_obey {t : Turn} (ho : r.client.obey r.supply.fresh line = .ok (some t))
    (whole : ∀ o ∈ t.outputs, o.fatal? r.client.screen = none) (hp : Output.requests t.outputs = []) :
    r.line answer line = (⟨t.client, r.transport, r.supply.advance, r.outputs ++ t.outputs⟩, none) := by
  have hposted : Client.posted? t.outputs = none := by
    rw [Client.posted?_eq, hp]
    rfl
  have hturn : Client.Run.turn { r with supply := r.supply.advance } t = _ := turn_eq whole
  rw [Client.Run.line, ho]
  dsimp only
  rw [hturn]
  dsimp only
  rw [hposted]

theorem done_of_obey {t : Turn} {a : Act} (ho : r.client.obey r.supply.fresh line = .ok (some t))
    (whole : ∀ o ∈ t.outputs, o.fatal? r.client.screen = none) (ready : Ready config screen t.client)
    (shows : Shows config screen t.outputs a) (ha : a.exchange? = none)
    (kept : ∀ used ∈ a.id?, ∀ i ∈ r.client.id?, used = i) (next : t.client.id? = a.next r.client.id?)
    (tracker : t.client.chat.tracker = r.client.chat.tracker) :
    ∃ r', r.line answer line = (r', none) ∧ Done config screen answer r r' a := by
  have hrequests : Output.requests t.outputs = [] := by
    rw [shows.requests, ha]
    rfl
  refine ⟨_, line_of_obey ho whole hrequests, ready, fun acts h => ?_, kept, next, ⟨_, rfl, shows⟩, .of_tracker tracker ha⟩
  cases a with
  | asked => exact nomatch ha
  | idle | shown | forgot => exact h

theorem line_blank (h : Ready config screen r.client) (hc : Command.parse line = .send line)
    (hb : Text.isBlankText line = true) :
    ∃ r', r.line answer line = (r', none) ∧ Done config screen answer r r' .idle := by
  have hs : (r.client.chat.type line).send = ⟨none, r.client.chat.type line, [.log Controller.Event.ignored]⟩ :=
    Controller.send_blank hb
  have ho : r.client.obey r.supply.fresh line =
      .ok (some ⟨⟨r.client.chat.type line, r.client.screen, none⟩, [.log Controller.Event.ignored]⟩) := by
    rw [Client.obey, hc]
    dsimp only
    rw [Client.send, hs]
    rfl
  exact done_of_obey ho (List.forall_mem_singleton.mpr rfl) ⟨h.screen, h.config, h.plain, h.sound, h.store⟩
    ⟨rfl, rfl, fun _ _ => rfl⟩ rfl nofun rfl rfl

/-- The id in force is printed, or a fresh one. -/
theorem line_session (h : Ready config screen r.client) (told : screen.mute = none) (shown : screen.broken = none)
    (hc : Command.parse line = .showSession) :
    ∃ id r', r.line answer line = (r', none) ∧ Done config screen answer r r' (.shown id) := by
  obtain ⟨id, store, log, hestablish, hopen, hid, hold⟩ :=
    Session.Identity.establish_unrefused h.store r.client.chat.config.sessionKey r.supply.fresh
  have ho : r.client.obey r.supply.fresh line =
      .ok (some ⟨⟨{ r.client.chat with store }, r.client.screen, none⟩,
        Client.outputs r.client.screen (log.map .log) ++ [.answer (id.text ++ "\n")]⟩) := by
    rw [Client.obey, hc]
    dsimp only
    rw [Controller.sessionId, hestablish]
    rfl
  have hwhole : ∀ o ∈ Client.outputs r.client.screen (log.map .log) ++ [.answer (id.text ++ "\n")],
      o.fatal? r.client.screen = none := by
    rw [h.screen]
    exact List.forall_mem_append.mpr ⟨Client.fatal?_outputs told _,
      List.forall_mem_singleton.mpr (Output.fatal?_of_obstacle shown)⟩
  refine ⟨id, done_of_obey ho hwhole ⟨h.screen, h.config, h.plain, h.sound, hopen⟩ ⟨?_, ?_, fun echo unbroken => ?_⟩ rfl ?_
    hid rfl⟩
  · rw [Output.requests_append, Client.requests_outputs, Controller.Effect.requests_log]
    rfl
  · rw [Output.complaints_append, Client.complaints_outputs, Controller.Effect.notices_log]
    rfl
  · rw [Output.prints_append, h.screen, Client.prints_outputs echo unbroken, Controller.Effect.calls_log]
    show String.join [id.text ++ "\n"] = id.text ++ "\n"
    rw [String.join_cons, String.join_nil, String.append_empty]
  · intro used hused i hi
    obtain rfl := Option.some.inj hused
    exact hold i hi

theorem line_reset (h : Ready config screen r.client) (hc : Command.parse line = .resetSession) :
    ∃ r', r.line answer line = (r', none) ∧ Done config screen answer r r' .forgot := by
  obtain ⟨store, hreset, hopen, hid⟩ := Session.Identity.reset_unrefused h.store r.client.chat.config.sessionKey
  have ho : r.client.obey r.supply.fresh line =
      .ok (some ⟨⟨{ r.client.chat with store }, r.client.screen, none⟩, [.log ⟨.info, "session cleared", []⟩]⟩) := by
    rw [Client.obey, hc]
    dsimp only
    rw [Controller.resetSession, hreset]
    rfl
  exact done_of_obey ho (List.forall_mem_singleton.mpr rfl) ⟨h.screen, h.config, h.plain, h.sound, hopen⟩
    ⟨rfl, rfl, fun _ _ => rfl⟩ rfl nofun hid rfl

/-! ### A line that is sent -/

/-- A client that has sent a text and waits for the answer to its request. -/
structure Waits (config : Config) (screen : Screen) (c c' : Client) (q : Exchange.Request) : Prop where
  ready : Ready config screen c'
  awaited : c'.awaited = some c.chat.pending.length
  waiting : ∃ n, c'.chat.pending[c.chat.pending.length]? =
    some ⟨c.chat.tracker.started + 1, q.input, .waiting n q⟩
  tracker : c'.chat.tracker = c.chat.tracker.start.2

/-- The chat when the exchange that is made of a text has sent its request. -/
def Client.asking (c : Client) (line : String) (session : SessionId) (store : Session.Store) : Controller :=
  (c.chat.type line).send.state.handing c.chat.pending.length store ⟨c.chat.config.agentName, line, session⟩

section Send
variable {c : Client} {session fresh : SessionId} {store : Session.Store} {log : List Log.Event}

/-- The exchange that is made is the last one, and it is started. -/
theorem poll_made (hb : Text.isBlankText line = false)
    (established : Session.Identity.establish c.chat.config.sessionKey fresh c.chat.store = ⟨.ok session, store, log⟩) :
    (c.chat.type line).send.state.poll fresh (fun _ _ => none) c.chat.pending.length =
      ⟨.waiting, c.asking line session store,
        log.map .log ++ [.post c.chat.sent ⟨c.chat.config.agentName, line, session⟩]⟩ := by
  have hsend : (c.chat.type line).send = _ := Controller.send_typed hb
  unfold Client.asking
  rw [hsend]
  exact Controller.poll_waits (p := (c.chat.type line).next) List.getElem?_concat_length rfl established

/-- A text that is sent becomes an exchange, which is started at once. -/
theorem send_eq (hb : Text.isBlankText line = false)
    (established : Session.Identity.establish c.chat.config.sessionKey fresh c.chat.store = ⟨.ok session, store, log⟩) :
    c.send fresh line = ⟨⟨c.asking line session store, c.screen, some c.chat.pending.length⟩,
      Client.outputs c.screen (c.chat.type line).send.effects ++
        Client.outputs c.screen (log.map .log ++ [.post c.chat.sent ⟨c.chat.config.agentName, line, session⟩])⟩ := by
  have hresult : (c.chat.type line).send.result = some c.chat.pending.length := (Controller.send_does hb).1
  have hpoll := poll_made hb established
  unfold Client.send
  dsimp only
  rw [hresult]
  dsimp only [Client.proceed, Client.turn]
  rw [hpoll]
  rfl

theorem send_outputs (hs : c.screen = screen) (hb : Text.isBlankText line = false) (log : List Log.Event)
    (q : Exchange.Request) :
    let os := Client.outputs c.screen (c.chat.type line).send.effects ++
      Client.outputs c.screen (log.map .log ++ [.post c.chat.sent q])
    Output.requests os = [q] ∧ Output.complaints os = [] ∧ (screen.echo = true → screen.broken = none →
      Output.prints os = [c.chat.config.userLabel ++ ": " ++ line ++ "\n"]) := by
  have hsend : (c.chat.type line).send = _ := Controller.send_typed hb
  rw [hs, hsend]
  refine ⟨?_, ?_, fun echo unbroken => ?_⟩
  · rw [Output.requests_append, Client.requests_outputs, Client.requests_outputs, Controller.Effect.requests_append,
      Controller.Effect.requests_log]
    rfl
  · rw [Output.complaints_append, Client.complaints_outputs, Client.complaints_outputs,
      Controller.Effect.notices_append, Controller.Effect.notices_log]
    rfl
  · rw [Output.prints_append, Client.prints_outputs echo unbroken, Client.prints_outputs echo unbroken,
      Controller.Effect.calls_append, Controller.Effect.calls_log]
    rfl

theorem asking_waits (h : Ready config screen c) (hb : Text.isBlankText line = false) (hopen : store.Open)
    (established : Session.Identity.establish c.chat.config.sessionKey fresh c.chat.store = ⟨.ok session, store, log⟩) :
    Waits config screen c ⟨c.asking line session store, c.screen, some c.chat.pending.length⟩
      ⟨c.chat.config.agentName, line, session⟩ := by
  have hsend : (c.chat.type line).send = _ := Controller.send_typed hb
  have hmade : (c.chat.type line).send.state.talk.Sound := (Controller.send_does hb).2.sound h.sound
  have hsound : (c.asking line session store).talk.Sound := by
    obtain ⟨d, -, hd⟩ := Controller.poll_does (c.chat.type line).send.state fresh (fun _ _ => none)
      c.chat.pending.length
    rw [poll_made hb established] at hd
    exact hd.sound hmade
  have hconfig : (c.asking line session store).config = c.chat.config := by
    rw [Client.asking, hsend]
    rfl
  have hrenderer : (c.asking line session store).renderer = c.chat.renderer := by
    rw [Client.asking, hsend]
    rfl
  refine ⟨⟨h.screen, hconfig.trans h.config, hrenderer.trans h.plain, hsound, hopen⟩, rfl, ⟨c.chat.sent, ?_⟩, ?_⟩
  · show (c.asking line session store).pending[c.chat.pending.length]? = _
    rw [Client.asking, hsend]
    unfold Controller.handing
    rw [Controller.getElem?_setPhase, if_pos rfl]
    show Option.map _ (c.chat.pending ++ [_])[c.chat.pending.length]? = _
    rw [List.getElem?_concat_length]
    rfl
  · show (c.asking line session store).tracker = _
    rw [Client.asking, hsend]
    rfl

theorem Waits.poll_eq {c' : Client} {q : Exchange.Request} (h : Waits config screen c c' q)
    (arrival : Exchange.Arrival) :
    c'.chat.poll fresh (fun _ _ => some arrival) c.chat.pending.length =
      c'.chat.complete c.chat.pending.length (c.chat.tracker.started + 1) arrival := by
  obtain ⟨n, hp⟩ := h.waiting
  exact (Controller.poll_waiting hp rfl).trans (Controller.resume_some _ _ rfl _)

theorem Waits.receive_eq {c' : Client} {q : Exchange.Request} (h : Waits config screen c c' q)
    (arrival : Exchange.Arrival) :
    let s := c'.chat.complete c.chat.pending.length (c.chat.tracker.started + 1) arrival
    c'.receive fresh arrival = ⟨⟨s.state, screen, none⟩, Client.outputs screen s.effects⟩ := by
  intro s
  have hdone : s.result ≠ .waiting := fun hw => by
    have hreturned := Controller.returned?_complete c'.chat c.chat.pending.length (c.chat.tracker.started + 1) arrival
    rw [hw] at hreturned
    exact nomatch hreturned
  rw [Client.receive, h.awaited]
  dsimp only [Client.proceed, Client.turn]
  rw [h.poll_eq, if_neg hdone, h.ready.screen]
  rfl

/-- The client is ready for the next line, with the same store. -/
theorem Waits.complete {c' : Client} {q : Exchange.Request} (h : Waits config screen c c' q)
    (numbered : c.chat.tracker.Numbered) (fresh : SessionId) (arrival : Exchange.Arrival) :
    let chat := (c'.chat.complete c.chat.pending.length (c.chat.tracker.started + 1) arrival).state
    Ready config screen ⟨chat, screen, none⟩ ∧ chat.config = c'.chat.config ∧ chat.store = c'.chat.store ∧
      Settles c.chat chat (.asked q arrival.result) := by
  intro chat
  obtain ⟨n, hp⟩ := h.waiting
  have hsound : chat.talk.Sound := by
    obtain ⟨d, -, hd⟩ := Controller.poll_does c'.chat fresh (fun _ _ => some arrival) c.chat.pending.length
    rw [h.poll_eq] at hd
    exact hd.sound h.ready.sound
  have hawaits : c'.chat.tracker.state? (c.chat.tracker.started + 1) = some .awaiting :=
    h.ready.sound.awaited_at hp Controller.Phase.noConfusion
  obtain ⟨transcript, -, hstate⟩ := Controller.complete_awaiting hawaits c.chat.pending.length arrival
  have hchat : chat = _ := hstate
  have hconfig : chat.config = c'.chat.config := by rw [hchat]; rfl
  have hstore : chat.store = c'.chat.store := by rw [hchat]; rfl
  have hrenderer : chat.renderer = c'.chat.renderer := by rw [hchat]; rfl
  have htracker : chat.tracker = c.chat.tracker.start.2.settled (c.chat.tracker.started + 1) arrival.outcome := by
    rw [hchat, ← h.tracker]
  have hstarted : c.chat.tracker.start.2.state? (c.chat.tracker.started + 1) = some .awaiting := by
    rw [Exchange.Tracker.state?_start numbered, if_pos rfl]
  refine ⟨⟨rfl, hconfig.trans h.ready.config, hrenderer.trans h.ready.plain, hsound, ?_⟩, hconfig, hstore, ?_, ?_, ?_⟩
  · intro call
    rw [hstore]
    exact h.ready.store call
  · exact congrArg Exchange.Tracker.started htracker
  · intro i hi
    show chat.tracker.state? i = c.chat.tracker.state? i
    have hne : i ≠ c.chat.tracker.started + 1 := Nat.ne_of_lt (Nat.lt_succ_of_le hi)
    rw [htracker, Exchange.Tracker.state?_settled hstarted, if_neg hne, Exchange.Tracker.state?_start numbered,
      if_neg hne]
  · intro e he
    obtain rfl := Option.some.inj he
    show chat.tracker.state? (c.chat.tracker.started + 1) = some (Act.state arrival.result)
    rw [htracker, Exchange.Tracker.state?_settled hstarted, if_pos rfl, Act.state_outcome]

/-- The reply is shown, or the failure is told. -/
theorem receive_outputs {c' : Client} (h : Ready config screen c') (i : Nat) (id : Exchange.Id)
    (arrival : Exchange.Arrival) :
    let os := Client.outputs screen (c'.chat.complete i id arrival).effects
    Output.requests os = [] ∧
      (Output.complaints os = match arrival.result with
        | .ok _ => []
        | .error _ => ["error: " ++ config.failureMessage ++ "\n"]) ∧
      (screen.echo = true → screen.broken = none → Output.prints os = match arrival.result with
        | .ok body => [Exchange.replyText body ++ "\n", "\n"]
        | .error _ => []) := by
  refine ⟨?_, ?_, fun echo unbroken => ?_⟩
  · rw [Client.requests_outputs, Controller.requests_complete]
  · rw [Client.complaints_outputs, Controller.notices_complete, h.config]
    cases arrival.result <;> rfl
  · have hbodies := Controller.calls_complete c'.chat i id arrival
    rw [Client.prints_outputs echo unbroken]
    have hmap : ∀ es : List Transcript.Entry, es.map (fun e => e.body.content ++ "\n") =
        (es.map fun e => e.body).map fun body => body.content ++ "\n" := fun es => by
      rw [List.map_map]
      rfl
    rw [hmap, hbodies, h.plain]
    cases arrival.result <;> rfl

end Send

theorem line_of_request {t t' : Turn} {q : Exchange.Request}
    (ho : r.client.obey r.supply.fresh line = .ok (some t))
    (whole : ∀ o ∈ t.outputs, o.fatal? r.client.screen = none) (hq : Output.requests t.outputs = [q])
    (hr : t.client.receive r.supply.advance.fresh (answer r.transport q).1 = t')
    (whole' : ∀ o ∈ t'.outputs, o.fatal? t.client.screen = none) :
    r.line answer line =
      (⟨t'.client, (answer r.transport q).2, r.supply.advance, r.outputs ++ t.outputs ++ t'.outputs⟩, none) := by
  have hposted : Client.posted? t.outputs = some q := by
    rw [Client.posted?_eq, hq]
    rfl
  have hturn : Client.Run.turn { r with supply := r.supply.advance } t = _ := turn_eq whole
  rw [Client.Run.line, ho]
  dsimp only
  rw [hturn]
  dsimp only
  rw [hposted]
  dsimp only
  rw [hr]
  exact turn_eq whole'

/-- What is seen of an exchange from its first half and its second. -/
theorem shows_exchange {os os' : List Output} {q : Exchange.Request} {result : Except Exchange.Error Json.Value}
    (before : Output.requests os = [q] ∧ Output.complaints os = [] ∧ (screen.echo = true → screen.broken = none →
      Output.prints os = [config.userLabel ++ ": " ++ q.input ++ "\n"]))
    (after : Output.requests os' = [] ∧
      (Output.complaints os' = match result with
        | .ok _ => []
        | .error _ => ["error: " ++ config.failureMessage ++ "\n"]) ∧
      (screen.echo = true → screen.broken = none → Output.prints os' = match result with
        | .ok body => [Exchange.replyText body ++ "\n", "\n"]
        | .error _ => [])) :
    Shows config screen (os ++ os') (.asked q result) := by
  obtain ⟨hrequests, hcomplaints, hprints⟩ := before
  obtain ⟨hrequests', hcomplaints', hprints'⟩ := after
  refine ⟨?_, ?_, fun echo unbroken => ?_⟩
  · rw [Output.requests_append, hrequests, hrequests']
    rfl
  · rw [Output.complaints_append, hcomplaints, hcomplaints']
    cases result <;> rfl
  · rw [Output.prints_append, hprints echo unbroken, hprints' echo unbroken, String.join_append]
    cases result with
    | ok body =>
      simp only [String.join_cons, String.join_nil, String.append_empty, Act.printed, String.append_assoc]
    | error e =>
      simp only [String.join_cons, String.join_nil, String.append_empty, Act.printed]

/-- A line that is sent comes to an exchange, which is carried out to its end. -/
theorem line_send (h : Ready config screen r.client) (told : screen.mute = none)
    (hc : Command.parse line = .send line) (hb : Text.isBlankText line = false) :
    ∃ session result r', r.line answer line = (r', none) ∧
      Done config screen answer r r' (.asked ⟨config.agentName, line, session⟩ result) := by
  obtain ⟨session, store, log, hestablish, hopen, hid, hold⟩ :=
    Session.Identity.establish_unrefused h.store r.client.chat.config.sessionKey r.supply.fresh
  obtain rfl := h.config
  let q : Exchange.Request := ⟨r.client.chat.config.agentName, line, session⟩
  let a := answer r.transport q
  have hobey : r.client.obey r.supply.fresh line = .ok (some (r.client.send r.supply.fresh line)) := by
    rw [Client.obey, hc]
  rw [send_eq hb hestablish] at hobey
  have hwaits := asking_waits h hb hopen hestablish
  have hsent := send_outputs h.screen hb log q
  have htold : r.client.screen.mute = none := h.screen ▸ told
  have hline : r.line answer line = _ := line_of_request hobey
    (List.forall_mem_append.mpr ⟨Client.fatal?_outputs htold _, Client.fatal?_outputs htold _⟩) hsent.1
    (hwaits.receive_eq a.1) (h.screen ▸ Client.fatal?_outputs told _)
  obtain ⟨hready, hconfig, hstore, hsettles⟩ := hwaits.complete h.sound.numbered r.supply.advance.fresh a.1
  have hreceived := receive_outputs hwaits.ready r.client.chat.pending.length (r.client.chat.tracker.started + 1) a.1
  refine ⟨session, a.1.result, _, hline, hready, fun acts h => ⟨rfl, h⟩, ?_, ?_,
    ⟨_, List.append_assoc _ _ _, shows_exchange hsent hreceived⟩, hsettles⟩
  · intro used hused i hi
    obtain rfl := Option.some.inj hused
    exact hold i hi
  · have hkey := congrArg Config.sessionKey (hconfig.trans hwaits.ready.config)
    exact (congrArg₂ Session.Store.id? hstore hkey).trans hid

theorem parse_cases (h : Command.parse line ≠ .quit) :
    (Command.parse line = .showSession ∧ Text.trim line = "/session") ∨
      (Command.parse line = .resetSession ∧ Text.trim line = "/reset") ∨
      (Command.parse line = .send line ∧ Text.trim line ≠ "/session" ∧ Text.trim line ≠ "/reset") := by
  unfold Command.parse at h ⊢
  dsimp only at h ⊢
  split
  · next hquit => exact absurd (if_pos hquit) h
  · split
    · next hsession => exact .inl ⟨rfl, hsession⟩
    · next hsession =>
      split
      · next hreset => exact .inr (.inl ⟨rfl, hreset⟩)
      · next hreset => exact .inr (.inr ⟨rfl, hsession, hreset⟩)

/-- Every line that does not end the client is carried out, if what it has to say can be said. -/
theorem line_done (h : Ready config screen r.client) (told : screen.mute = none)
    (shown : screen.broken = none ∨ Text.trim line ≠ "/session") (hc : Command.parse line ≠ .quit) :
    ∃ a r', r.line answer line = (r', none) ∧ Done config screen answer r r' a ∧
      Act.Follows config.agentName line a := by
  obtain ⟨hc, ht⟩ | ⟨hc, ht⟩ | ⟨hc, hsession, hreset⟩ := parse_cases hc
  · have unbroken : screen.broken = none := shown.resolve_right fun h => h ht
    obtain ⟨id, r', hline, hdone⟩ := line_session h told unbroken hc
    exact ⟨_, r', hline, hdone, .shown ht⟩
  · obtain ⟨r', hline, hdone⟩ := line_reset h hc
    exact ⟨_, r', hline, hdone, .forgot ht⟩
  · cases hb : Text.isBlankText line with
    | true =>
      obtain ⟨r', hline, hdone⟩ := line_blank h hc hb
      exact ⟨_, r', hline, hdone, .idle hb⟩
    | false =>
      obtain ⟨session, result, r', hline, hdone⟩ := line_send h told hc hb
      exact ⟨_, r', hline, hdone, .asked hb hsession hreset⟩

theorem line_quit (hc : Command.parse line = .quit) : r.line answer line = (r, some .done) := by
  rw [Client.Run.line, Client.obey, hc]

end Line

end Terminal

end Parley

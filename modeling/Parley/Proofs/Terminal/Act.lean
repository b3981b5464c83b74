import Parley.Proofs.Controller.Conversation
import Parley.Proofs.Controller.Polling
import Parley.Terminal.Client

/-!
# What lines come to

* `Act`, `Act.Follows` : what a line comes to: nothing, the session's id, a new session, or an exchange with the agent;
* `Act.printed`, `Act.complaints` : what is seen of it; `Act.state` : what becomes of its exchange;
* `Act.Threaded`, `Act.Kept` : the answers come from the transport one after another, and the session goes on until it
  is forgotten;
* `Output.prints`, `complaints`, `requests` : what a client prints, complains of and sends;
  `requests_outputs`, `complaints_outputs`, `prints_outputs` : of the effects of its chat;
* `Output.carryOut_eq`, `fatal?_outputs` : what does not break the program.
-/

namespace Parley.Terminal

inductive Act
  | idle
  /-- The session's id is printed. -/
  | shown (id : SessionId)
  /-- The session's id is forgotten. -/
  | forgot
  /-- The agent is asked, and this comes of it. -/
  | asked (request : Exchange.Request) (result : Except Exchange.Error Json.Value)

namespace Act

/-- A line and what it comes to: two commands are carried out, blanks are passed over, and whatever else is sent as it
was typed. -/
inductive Follows (agent : String) (line : String) : Act → Prop
  | idle (blank : Text.isBlankText line = true) : Follows agent line .idle
  | shown {id : SessionId} (command : Text.trim line = "/session") : Follows agent line (.shown id)
  | forgot (command : Text.trim line = "/reset") : Follows agent line .forgot
  | asked {session : SessionId} {result : Except Exchange.Error Json.Value} (blank : Text.isBlankText line = false)
      (show' : Text.trim line ≠ "/session") (reset : Text.trim line ≠ "/reset") :
      Follows agent line (.asked ⟨agent, line, session⟩ result)

def id? : Act → Option SessionId
  | shown id => some id
  | asked request _ => some request.session
  | idle | forgot => none

def exchange? : Act → Option (Exchange.Request × Except Exchange.Error Json.Value)
  | asked request result => some (request, result)
  | idle | shown _ | forgot => none

def printed (label : String) : Act → String
  | idle | forgot => ""
  | shown id => id.text ++ "\n"
  | asked request (.ok body) => label ++ ": " ++ request.input ++ "\n" ++ Exchange.replyText body ++ "\n" ++ "\n"
  | asked request (.error _) => label ++ ": " ++ request.input ++ "\n"

def complaints (message : String) : Act → List String
  | asked _ (.error _) => ["error: " ++ message ++ "\n"]
  | asked _ (.ok _) | idle | shown _ | forgot => []

def state : Except Exchange.Error Json.Value → Exchange.State
  | .ok _ => .delivered
  | .error e => .failed e.message

theorem state_outcome (a : Exchange.Arrival) : a.outcome.state = state a.result := by
  unfold Exchange.Arrival.outcome
  cases a.result <;> rfl

/-- Each request is answered by the transport as it is after those before it. -/
def Threaded {σ : Type} (answer : σ → Exchange.Request → Exchange.Arrival × σ) : σ → List Act → Prop
  | _, [] => True
  | s, asked request result :: acts =>
    result = (answer s request).1.result ∧ Threaded answer (answer s request).2 acts
  | s, idle :: acts | s, shown _ :: acts | s, forgot :: acts => Threaded answer s acts

def next (id : Option SessionId) : Act → Option SessionId
  | idle => id
  | forgot => none
  | shown id => some id
  | asked request _ => some request.session

/-- The id in force is the one that is used. -/
def Kept : Option SessionId → List Act → Prop
  | _, [] => True
  | id, a :: acts => (∀ used ∈ a.id?, ∀ i ∈ id, used = i) ∧ Kept (a.next id) acts

theorem Kept.same {id : SessionId} {acts rest : List Act} (h : Kept (some id) (acts ++ rest)) (calm : forgot ∉ acts) :
    ∀ a ∈ acts, ∀ used ∈ a.id?, used = id := by
  induction acts generalizing id with
  | nil => exact fun a ha => (List.not_mem_nil ha).elim
  | cons a acts ih =>
    obtain ⟨hused, hrest⟩ := h
    have hnext : a.next (some id) = some id := by
      cases a with
      | idle => rfl
      | forgot => exact absurd List.mem_cons_self calm
      | shown used => exact congrArg some (hused used rfl id rfl)
      | asked request => exact congrArg some (hused request.session rfl id rfl)
    rw [hnext] at hrest
    intro b hb
    rcases List.mem_cons.mp hb with rfl | hb
    · exact fun used hu => hused used hu id rfl
    · exact ih hrest (fun hf => calm (List.mem_cons_of_mem _ hf)) b hb

theorem Kept.append {id : Option SessionId} {acts rest : List Act} (h : Kept id (acts ++ rest)) :
    ∃ id', Kept id' rest := by
  induction acts generalizing id with
  | nil => exact ⟨id, h⟩
  | cons a acts ih => exact ih h.2

/-- Whatever was in force before, one id is used until it is forgotten. -/
theorem Kept.pairwise {id : Option SessionId} {acts rest : List Act} (h : Kept id (acts ++ rest))
    (calm : forgot ∉ acts) : ∀ a ∈ acts, ∀ b ∈ acts, ∀ i ∈ a.id?, ∀ j ∈ b.id?, i = j := by
  induction acts generalizing id with
  | nil => exact fun a ha => (List.not_mem_nil ha).elim
  | cons c acts ih =>
    obtain ⟨hused, hrest⟩ := h
    have calm' : forgot ∉ acts := fun hf => calm (List.mem_cons_of_mem _ hf)
    cases hc : c.id? with
    | none =>
      intro a ha b hb i hi j hj
      rcases List.mem_cons.mp ha with rfl | ha
      · exact nomatch hi.symm.trans hc
      rcases List.mem_cons.mp hb with rfl | hb
      · exact nomatch hj.symm.trans hc
      exact ih hrest calm' a ha b hb i hi j hj
    | some used =>
      have hnext : c.next id = some used := by
        cases c with
        | idle | forgot => exact nomatch hc
        | shown | asked => exact hc
      rw [hnext] at hrest
      have hall : ∀ a ∈ c :: acts, ∀ i ∈ a.id?, i = used := fun a ha i hi => by
        rcases List.mem_cons.mp ha with rfl | ha
        · exact Option.some.inj (hi.symm.trans hc)
        · exact hrest.same calm' a ha i hi
      exact fun a ha b hb i hi j hj => (hall a ha i hi).trans (hall b hb j hj).symm

/-- Between two resets one id is used. -/
theorem Kept.stretch {id : Option SessionId} {acts stretch rest : List Act} (h : Kept id (acts ++ (stretch ++ rest)))
    (calm : forgot ∉ stretch) : ∀ a ∈ stretch, ∀ b ∈ stretch, ∀ i ∈ a.id?, ∀ j ∈ b.id?, i = j := by
  obtain ⟨id', h⟩ := h.append
  exact h.pairwise calm

end Act

/-! ## Outputs -/

namespace Output

def print? : Output → Option String
  | print text | answer text => some text
  | complain _ | post .. | log _ => none

def complaint? : Output → Option String
  | complain text => some text
  | print _ | answer _ | post .. | log _ => none

def request? : Output → Option Exchange.Request
  | post _ request => some request
  | print _ | answer _ | complain _ | log _ => none

def prints (os : List Output) : List String := os.filterMap print?

/-- What the user is told of failures, in order. -/
def complaints (os : List Output) : List String := os.filterMap complaint?

def requests (os : List Output) : List Exchange.Request := os.filterMap request?

theorem prints_append (os os' : List Output) : prints (os ++ os') = prints os ++ prints os' := List.filterMap_append

theorem complaints_append (os os' : List Output) : complaints (os ++ os') = complaints os ++ complaints os' :=
  List.filterMap_append

theorem requests_append (os os' : List Output) : requests (os ++ os') = requests os ++ requests os' :=
  List.filterMap_append

/-! ### What can be done -/

section Fatal
variable {s : Screen}

theorem fatal?_print (text : String) : (print text).fatal? s = none := by
  unfold fatal? obstacle?
  cases s.broken <;> rfl

theorem fatal?_of_obstacle {o : Output} (h : o.obstacle? s = none) : o.fatal? s = none := by
  rw [fatal?, h, Option.bind_none]

theorem carryOut_eq {os : List Output} (h : ∀ o ∈ os, o.fatal? s = none) : carryOut s os = (os, none) := by
  induction os with
  | nil => rfl
  | cons o os ih =>
    obtain ⟨ho, hos⟩ := List.forall_mem_cons.mp h
    rw [carryOut, ho, ih hos]

end Fatal

end Output

namespace Client

open Controller (Effect)
open Transcript (Entry ViewCall)

def outputs (s : Screen) (es : List Effect) : List Output := es.flatMap (output s)

theorem posted?_eq (os : List Output) : posted? os = (Output.requests os).head? := by
  rw [Output.requests, List.head?_filterMap]
  refine congrArg (List.findSome? · os) (funext fun o => ?_)
  cases o <;> rfl

/-- What the log is told is neither printed nor sent. -/
theorem projections_log (log : List Log.Event) : Output.prints (log.map .log) = [] ∧
    Output.complaints (log.map .log) = [] ∧ Output.requests (log.map .log) = [] := by
  refine ⟨List.filterMap_eq_nil_iff.mpr ?_, List.filterMap_eq_nil_iff.mpr ?_, List.filterMap_eq_nil_iff.mpr ?_⟩
  all_goals
    intro o ho
    obtain ⟨e, -, rfl⟩ := List.mem_map.mp ho
    rfl

theorem output_render (s : Screen) (e : Entry) : output s (.view (.render e)) =
    (if (s.render e).1 = "" then [] else [.print (s.render e).1]) ++ (s.render e).2.map .log := rfl

/-- What is printed for an entry is no complaint and no request. -/
theorem projections_render (s : Screen) (e : Entry) :
    Output.complaints (output s (.view (.render e))) = [] ∧ Output.requests (output s (.view (.render e))) = [] := by
  obtain ⟨-, hc, hr⟩ := projections_log (s.render e).2
  rw [output_render, Output.complaints_append, Output.requests_append, hc, hr]
  by_cases h : (s.render e).1 = ""
  · rw [if_pos h]
    exact ⟨rfl, rfl⟩
  · rw [if_neg h]
    exact ⟨rfl, rfl⟩

theorem requests_output (s : Screen) (e : Effect) : Output.requests (output s e) = e.request?.toList := by
  cases e with
  | view call =>
    cases call with
    | scrollTo => rfl
    | render e => exact (projections_render s e).2
  | notify | post | log => rfl

theorem complaints_output (s : Screen) (e : Effect) :
    Output.complaints (output s e) = (e.notice?.map fun message => "error: " ++ message ++ "\n").toList := by
  cases e with
  | view call =>
    cases call with
    | scrollTo => rfl
    | render e => exact (projections_render s e).1
  | notify | post | log => rfl

/-- Where everything can be printed, entries are printed as lines. -/
theorem prints_output {s : Screen} (echo : s.echo = true) (unbroken : s.broken = none) (e : Effect) :
    Output.prints (output s e) =
      ((e.call?.bind ViewCall.entry?).map fun entry => entry.body.content ++ "\n").toList := by
  cases e with
  | view call =>
    cases call with
    | scrollTo => rfl
    | render e =>
      have hr : s.render e = (e.body.content ++ "\n", []) := by
        rw [Screen.render, unbroken, Screen.line?, if_neg fun h => h.2 echo]
      have hne : e.body.content ++ "\n" ≠ "" := fun h => by
        have hl := congrArg String.length h
        rw [String.length_append] at hl
        exact absurd hl (by simp)
      rw [output_render, hr, if_neg hne]
      rfl
  | notify | post | log => rfl

/-- Where failures can be told, nothing that a chat does breaks the program. -/
theorem fatal?_outputs {s : Screen} (told : s.mute = none) (es : List Effect) :
    ∀ o ∈ outputs s es, o.fatal? s = none := by
  intro o ho
  obtain ⟨e, -, ho⟩ := List.mem_flatMap.mp ho
  cases e with
  | view call =>
    cases call with
    | scrollTo => exact (List.not_mem_nil ho).elim
    | render e =>
      rw [output_render] at ho
      rcases List.mem_append.mp ho with ho | ho
      · split at ho
        · exact (List.not_mem_nil ho).elim
        · rw [List.mem_singleton.mp ho]
          exact Output.fatal?_print _
      · obtain ⟨l, -, rfl⟩ := List.mem_map.mp ho
        rfl
  | notify =>
    rw [List.mem_singleton.mp ho]
    exact Output.fatal?_of_obstacle told
  | post | log =>
    rw [List.mem_singleton.mp ho]
    rfl

theorem filterMap_outputs {β : Type} {s : Screen} {f : Output → Option β} {g : Effect → Option β}
    (h : ∀ e, (output s e).filterMap f = (g e).toList) (es : List Effect) :
    (outputs s es).filterMap f = es.filterMap g := by
  induction es with
  | nil => rfl
  | cons e es ih =>
    have hcons : outputs s (e :: es) = output s e ++ outputs s es := List.flatMap_cons
    rw [hcons, List.filterMap_append, h, ih, List.filterMap_cons]
    cases g e <;> rfl

theorem requests_outputs (s : Screen) (es : List Effect) : Output.requests (outputs s es) = Effect.requests es :=
  filterMap_outputs (requests_output s) es

theorem complaints_outputs (s : Screen) (es : List Effect) :
    Output.complaints (outputs s es) = (Effect.notices es).map fun message => "error: " ++ message ++ "\n" := by
  rw [Effect.notices, List.map_filterMap]
  exact filterMap_outputs (complaints_output s) es

theorem prints_outputs {s : Screen} (echo : s.echo = true) (unbroken : s.broken = none) (es : List Effect) :
    Output.prints (outputs s es) =
      ((Effect.calls es).filterMap ViewCall.entry?).map fun e => e.body.content ++ "\n" := by
  rw [Effect.calls, List.filterMap_filterMap, List.map_filterMap]
  exact filterMap_outputs (prints_output echo unbroken) es

end Client

end Parley.Terminal

import Parley.Page.Browser

/-!
# What both transports hand back

* `Answered` : a whole response came, over a connection or on a page; `Answered.arrival_eq` : its text decides, and its
  status is told of at most (`statusWarning_eq`);
* `Broken` : no whole response came; `Broken.transport` : the exchange has failed on the way;
* `connection_ends`, `reply_ends`, `page_ends` : nothing else comes of a request;
* `Retold` : one text came two times.
-/

namespace Parley.Exchange

open Http (Reaction Response)
open Page (Reply)

/-- A whole response of this status came from `url`, with this text. -/
inductive Answered (url : String) (status : Nat) (body : String) : Arrival → Prop
  | connection {u : Url} {r : Response} (target : u.text = url) (final : r.isFinal = true) (code : r.status = status)
      (text : r.text? = some body) : Answered url status body ((Reaction.answered r).arrival u)
  | page : Answered url status body ((Reply.response status (.text body)).arrival url)
  /-- What a page reads is no text, which counts as the empty one. -/
  | other (empty : body = "") : Answered url status body ((Reply.response status .other).arrival url)

/-- The request did not get to `url`, or what came back is no whole response. -/
inductive Broken (url : String) : Arrival → Prop
  | unreachable {u : Url} (target : u.text = url) : Broken url (Reaction.unreachable.arrival u)
  | dropped {u : Url} (target : u.text = url) : Broken url (Reaction.dropped.arrival u)
  /-- The status only announces a response. -/
  | announced {u : Url} {r : Response} (target : u.text = url) (final : r.isFinal = false) :
      Broken url ((Reaction.answered r).arrival u)
  /-- Some of the body is missing. -/
  | cut {u : Url} {r : Response} (target : u.text = url) (final : r.isFinal = true) (text : r.text? = none) :
      Broken url ((Reaction.answered r).arrival u)
  /-- The page lets no request be made. -/
  | obstacle {p : Page} {a : Arrival} (h : p.obstacle.isSome = true) (answer : p.answer? url = some a) : Broken url a
  | rejected (v : Page.Thrown) : Broken url ((Reply.rejected v).arrival url)
  | foreign (v : Page.Thrown) : Broken url ((Reply.foreign v).arrival url)
  /-- The page lets the body not be read. -/
  | refused (status : Nat) (v : Page.Thrown) : Broken url ((Reply.response status (.refused v)).arrival url)

variable {url body : String} {status : Nat} {a : Arrival}

/-- Whichever way a response came, it is read by its text. -/
theorem Answered.arrival_eq (h : Answered url status body a) : a = .ofResponse status url body := by
  cases h with
  | page => rfl
  | other empty =>
    subst empty
    rfl
  | connection target final code text =>
    subst target code
    simp only [Reaction.arrival, final, text, Bool.not_true, Bool.false_eq_true, if_false]

/-- Whichever way a request came to nothing, the exchange fails on the way. -/
theorem Broken.transport (h : Broken url a) : ∃ stage details, a.result = .error (.transport stage url details) := by
  cases h with
  | unreachable target | dropped target =>
    subst target
    exact ⟨_, _, rfl⟩
  | announced target final =>
    subst target
    simp only [Reaction.arrival, final, Bool.not_false, if_true]
    exact ⟨_, _, rfl⟩
  | cut target final text =>
    subst target
    simp only [Reaction.arrival, final, text, Bool.not_true, Bool.false_eq_true, if_false]
    exact ⟨_, _, rfl⟩
  | obstacle h answer =>
    obtain ⟨⟨stage, details⟩, ho⟩ := Option.isSome_iff_exists.mp h
    rw [Page.answer?, ho] at answer
    obtain rfl := Option.some.inj answer
    exact ⟨stage, details, rfl⟩
  | rejected | foreign | refused => exact ⟨_, _, rfl⟩

theorem statusWarning_eq (status : Nat) (url : String) :
    Arrival.statusWarning status url = if 200 ≤ status ∧ status ≤ 299 then [] else
      [⟨.warn, "chat endpoint answered with a non-success status", [("status", toString status), ("url", url)]⟩] := by
  simp only [Arrival.statusWarning, Arrival.isSuccess, Bool.and_eq_true, decide_eq_true_eq]

/-! ## Nothing else comes -/

theorem connection_ends (u : Url) (x : Reaction) :
    (∃ status body, Answered u.text status body (x.arrival u)) ∨ Broken u.text (x.arrival u) := by
  cases x with
  | unreachable => exact .inr (.unreachable rfl)
  | dropped => exact .inr (.dropped rfl)
  | answered r =>
    cases final : r.isFinal with
    | false => exact .inr (.announced rfl final)
    | true =>
      cases text : r.text? with
      | none => exact .inr (.cut rfl final text)
      | some body => exact .inl ⟨r.status, body, .connection rfl final rfl text⟩

theorem reply_ends (url : String) (x : Reply) :
    (∃ status body, Answered url status body (x.arrival url)) ∨ Broken url (x.arrival url) := by
  cases x with
  | rejected v => exact .inr (.rejected v)
  | foreign v => exact .inr (.foreign v)
  | response status content =>
    cases content with
    | text body => exact .inl ⟨status, body, .page⟩
    | other => exact .inl ⟨status, "", .other rfl⟩
    | refused v => exact .inr (.refused status v)

theorem page_ends {p : Page} (h : p.answer? url = some a) :
    (∃ status body, Answered url status body a) ∨ Broken url a := by
  cases ho : p.obstacle with
  | some o => exact .inr (.obstacle (by rw [ho]; rfl) h)
  | none =>
    rw [Page.answer?, ho] at h
    obtain ⟨x, -, rfl⟩ := Option.map_eq_some_iff.mp h
    exact reply_ends url x

/-! ## One text, other statuses -/

/-- Two times one text came, with any statuses and over any transports; or exactly the same came. -/
inductive Retold : Arrival → Arrival → Prop
  | response {url url' body : String} {status status' : Nat} {a a' : Arrival} (h : Answered url status body a)
      (h' : Answered url' status' body a') : Retold a a'
  | same (a : Arrival) : Retold a a

theorem Retold.result {a' : Arrival} (h : Retold a a') : a'.result = a.result := by
  cases h with
  | response h h' =>
    rw [h.arrival_eq, h'.arrival_eq]
    rfl
  | same => rfl

end Parley.Exchange

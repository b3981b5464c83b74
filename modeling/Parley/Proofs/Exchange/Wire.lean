import Parley.Exchange.Reply
import Parley.Http.Message
import Parley.Http.Rehearsal
import Parley.Page.Basic
import Parley.Proofs.Json.Reading
import Parley.Proofs.Text.Utf8

/-!
# Requests on the wire

* `Request.decode_body` : a body is read as the object that it was written for, which tells the request
  (`Request.toJson_injective`);
* `Page.requested_iff`, `Http.received_send`, `Http.Message.bytes_of_body` : both transports send that body;
* `Exchange.round_trip` : all of this.
-/

namespace Parley

namespace Exchange.Request

open Json

theorem toJson_injective : Function.Injective toJson := by
  rintro ⟨agent, input, ⟨text, canonical⟩⟩ ⟨agent', input', ⟨text', canonical'⟩⟩ h
  simp only [toJson, Value.object.injEq, List.cons.injEq, Prod.mk.injEq, Value.text.injEq, true_and, and_true] at h
  obtain ⟨rfl, rfl, rfl⟩ := h
  rfl

theorem reads_toJson (r : Request) : Reader.Reads (Reader.value Reader.maxDepth) r.toJson := by
  have hnames : (["agent_name", "input", "session_id"] : List String).Pairwise (· < ·) := by decide
  refine Reader.reads_object (List.pairwise_map.mp hnames) ?_
  intro m hm
  simp only [List.mem_cons, List.not_mem_nil, or_false] at hm
  obtain rfl | rfl | rfl := hm <;> exact Reader.reads_text 126 _

theorem decode_body (r : Request) : decodeBody r.body = .ok r.toJson := by
  have hparse : Value.parse r.body = .ok r.toJson := Value.parse_compact (reads_toJson r)
  rw [decodeBody, hparse]
  rfl

theorem body_injective : Function.Injective body := by
  intro r r' h
  have hread : (.ok r.toJson : Except Error Value) = .ok r'.toJson := by
    rw [← decode_body, ← decode_body, h]
  exact toJson_injective (Except.ok.inj hread)

end Exchange.Request

/-! ## The transports -/

/-- A page makes one request or, with something in the way, none. -/
theorem Page.requested_iff (p : Page) (address : String) (r : Exchange.Request) (post : Http.Post) :
    Effect.requested post ∈ (p.send address r).2 ↔
      p.obstacle = none ∧ post = ⟨"POST", address, "application/json", r.body⟩ := by
  unfold send
  cases p.obstacle with
  | some o => simp
  | none => simp [Page.post]

namespace Http

theorem received_send (s : Rehearsal) (url : Url) (r : Exchange.Request) :
    (s.send url r).2.received =
      s.received ++ (if Rehearsal.isReached url then [⟨"POST", url.target, "application/json", r.body⟩] else []) := by
  unfold Rehearsal.send
  split
  · rfl
  · exact (List.append_nil _).symm

/-- On a connection, the body is what the last bytes are read as. -/
theorem Message.bytes_of_body (url : Url) (p : Post) :
    ∃ head bytes, Message.ofPost url p = head ++ bytes ∧ Text.Utf8.decode? bytes = some p.body.toList :=
  ⟨_, _, rfl, Text.Utf8.decode?_encode p.body.toList⟩

end Http

namespace Exchange

/-- The body of a request is read as an object of the agent's name, the text typed and the session, and of nothing
else; no two requests have one body; and in a browser and over a connection this body is sent, the same text in both.
There is no request whose body cannot be written. -/
theorem round_trip :
    (∀ r : Request, decodeBody r.body =
      .ok (.object [("agent_name", .text r.agent), ("input", .text r.input), ("session_id", .text r.session.text)])) ∧
    Function.Injective Request.body ∧
    ∀ r : Request,
      (∀ (p : Page) (address : String) (post : Http.Post), Page.Effect.requested post ∈ (p.send address r).2 ↔
        p.obstacle = none ∧ post = ⟨"POST", address, "application/json", r.body⟩) ∧
      (∀ (s : Http.Rehearsal) (url : Url), (s.send url r).2.received =
        s.received ++
          (if Http.Rehearsal.isReached url then [⟨"POST", url.target, "application/json", r.body⟩] else [])) ∧
      ∀ url : Url, ∃ head bytes, Http.Message.ofPost url (Http.post url r) = head ++ bytes ∧
        Text.Utf8.decode? bytes = some r.body.toList := by
  refine ⟨Request.decode_body, Request.body_injective, fun r => ⟨?page, ?service, ?connection⟩⟩
  case page => exact fun p address post => p.requested_iff address r post
  case service => exact fun s url => Http.received_send s url r
  case connection => exact fun url => Http.Message.bytes_of_body url (Http.post url r)

end Exchange

end Parley

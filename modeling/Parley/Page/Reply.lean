import Parley.Exchange.Reply
import Parley.Page.Thrown

/-!
# What a page's fetch comes to

`Reply.arrival` says what a reply means for the exchange whose request it answers.
-/

namespace Parley.Page

inductive Body
  | text (s : String)
  /-- What is read is no text; it counts as the empty text. -/
  | other
  /-- The body cannot be read. -/
  | refused (v : Thrown)
  deriving Repr

inductive Reply
  | response (status : Nat) (body : Body)
  /-- There is no response. -/
  | rejected (v : Thrown)
  /-- What came is no response. -/
  | foreign (v : Thrown)
  deriving Repr

namespace Reply

/-- A request that did not get there, or whose answer is no response. -/
def sendFailure (url : String) (v : Thrown) : Exchange.Arrival :=
  .failure (.transport "send-chat-request" url v.details)

/-- What a reply to a request to `url` means. The status is told before the body is read. -/
def arrival (url : String) : Reply → Exchange.Arrival
  | rejected v | foreign v => sendFailure url v
  | response status (.text s) => .ofResponse status url s
  | response status .other => .ofResponse status url ""
  | response status (.refused v) =>
    ⟨Exchange.Arrival.statusWarning status url, .error (.transport "read-chat-response" url v.details)⟩

end Reply

end Parley.Page

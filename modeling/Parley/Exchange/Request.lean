import Parley.Json.Printer
import Parley.Session.Id

/-!
# The request of an exchange
-/

namespace Parley.Exchange

/-- What is sent: the agent asked, the text typed, and the session it belongs to. -/
structure Request where
  agent : String
  input : String
  session : SessionId
  deriving DecidableEq

namespace Request

def toJson (r : Request) : Json.Value :=
  .object [("agent_name", .text r.agent), ("input", .text r.input), ("session_id", .text r.session.text)]

def body (r : Request) : String := r.toJson.compact

end Request

end Parley.Exchange

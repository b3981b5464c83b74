/-!
# Why a session operation fails
-/

namespace Parley.Session

inductive Error
  | invalidId (raw : String)
  /-- The store refused a call about `key`. -/
  | storage (stage key details : String)
  | alreadyEstablished (existing attempted : String)
  deriving DecidableEq, Repr

def Error.stage : Error → String
  | invalidId _ => "parse-session-id"
  | storage stage _ _ => stage
  | alreadyEstablished _ _ => "adopt-session-id"

def Error.message : Error → String
  | invalidId raw => s!"session id '{raw}' is not in xxxx-xxxx-xxxx-xxxx form"
  | storage stage key details => s!"session storage failed for key '{key}' on `{stage}`: {details}"
  | alreadyEstablished existing attempted =>
    s!"session already established as '{existing}', refusing to adopt '{attempted}'"

end Parley.Session

import Parley.Session.Error

/-!
# Why an exchange ends without a reply
-/

namespace Parley.Exchange

inductive Error
  | session (stage : String) (source : Session.Error)
  | encode (stage details : String)
  /-- The request did not get there, or no whole answer came back. -/
  | transport (stage endpoint details : String)
  | decode (stage details : String)
  deriving DecidableEq, Repr

namespace Error

def isTransport : Error → Bool
  | transport .. => true
  | _ => false

def isDecode : Error → Bool
  | decode .. => true
  | _ => false

/-- Where the exchange broke off. -/
def stage : Error → String
  | session stage _ | encode stage _ | transport stage _ _ | decode stage _ => stage

def message : Error → String
  | session stage source => s!"could not resolve the session id on `{stage}`: {source.message}"
  | encode stage details => s!"failed to encode chat request on `{stage}`: {details}"
  | transport stage endpoint details => s!"request to {endpoint} failed on `{stage}`: {details}"
  | decode stage details => s!"chat response is not valid JSON on `{stage}`: {details}"

end Error

end Parley.Exchange

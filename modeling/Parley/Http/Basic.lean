import Parley.Config.Error
import Parley.Exchange.Reply
import Parley.Exchange.Request
import Parley.Text.Utf8
import Parley.Url.Parse

/-!
# Chatting over HTTP

* `Http.endpoint` : the URL that requests go to;
* `Http.post` : the HTTP request that carries an exchange's request;
* `Reaction` : what a service does with it, and `Reaction.arrival` what that means for the exchange.
-/

namespace Parley.Http

/-- The URL of the service; a text that is no absolute URL cannot be used. -/
def endpoint (url : String) : Except Config.Error Url :=
  (Url.parse url).mapError fun e => .invalidUrl "parse-chat-url" url e.message

/-- The URL of the service that a configuration names. -/
def endpointOf (c : Config) : Except Config.Error Url := endpoint c.requestUrl

def describe (url : Url) : String := s!"HttpBackend \x7b url: {Text.shown url.text} \x7d"

structure Post where
  method : String := "POST"
  target : String
  contentType : String := "application/json"
  body : String
  deriving DecidableEq, Repr

def post (url : Url) (r : Exchange.Request) : Post where
  target := url.target
  body := r.body

/-- What a service answers: a status, and the bytes of a body of which some may never come. -/
structure Response where
  status : Nat
  body : List UInt8
  /-- How many bytes were promised and did not come. -/
  missing : Nat := 0
  deriving DecidableEq, Repr

inductive Reaction
  | unreachable
  | dropped
  | answered (r : Response)
  deriving DecidableEq, Repr

namespace Response

/-- The status is that of a final response, and not one that only announces it. -/
def isFinal (r : Response) : Bool := r.status == 101 || (200 ≤ r.status && r.status ≤ 999)

/-- Responses of these statuses have no body, whatever follows them. -/
def isBodiless (r : Response) : Bool := r.status == 101 || r.status == 204 || r.status == 304

/-- The whole body as text, unless some of it is missing. -/
def text? (r : Response) : Option String :=
  if r.isBodiless then some ""
  else if 0 < r.missing then none
  else some (String.ofList (Text.Utf8.decodeLossy r.body))

end Response

/-- The schemes that requests can go to. -/
def isPostable (url : Url) : Bool := url.scheme == "http" || url.scheme == "https"

/-- A request that did not get there, or whose answer never started. -/
def sendFailure (url : Url) : Exchange.Arrival :=
  let what := if isPostable url then "error sending request" else "builder error"
  .failure (.transport "send-chat-request" url.text s!"{what} for url ({url.anonymous.text})")

/-- An answer whose body did not come as promised. -/
def readFailure (url : Url) : Exchange.Arrival :=
  .failure (.transport "read-chat-response" url.text "error decoding response body")

def Reaction.arrival (url : Url) : Reaction → Exchange.Arrival
  | unreachable | dropped => sendFailure url
  | answered r =>
    if !r.isFinal then sendFailure url
    else
      match r.text? with
      | none => readFailure url
      | some body => .ofResponse r.status url.text body

end Parley.Http

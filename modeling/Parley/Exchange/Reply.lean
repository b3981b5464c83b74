import Parley.Exchange.Error
import Parley.Json.Printer
import Parley.Json.Reader
import Parley.Log

/-!
# What comes back from the agent

* `decodeBody` : the JSON value of an answer's body;
* `replyText` : the text to show for it: `result.output`, else `result`, else the whole body;
* `Arrival` : what a transport hands back, with the events it told on the way;
* `Arrival.ofResponse` : the one rule by which every transport reads a response.
-/

namespace Parley.Exchange

/-- The value of a response body; a body that is no JSON text is a failure. -/
def decodeBody (raw : String) : Except Error Json.Value :=
  (Json.Value.parse raw).mapError (.decode "decode-chat-response")

/-- A result that says nothing: `null` or the empty text. -/
def isEmptyResult : Json.Value → Bool
  | .null => true
  | .text s => s == ""
  | _ => false

/-- The member `result`, when it says something. -/
def result? (body : Json.Value) : Option Json.Value :=
  (body.member? "result").filter fun v => !isEmptyResult v

/-- The text `output` of a result, when it is not empty. -/
def output? (result : Json.Value) : Option String :=
  ((result.member? "output").bind Json.Value.text?).filter fun s => s != ""

/-- The text to show: the result's `output`, else the result (a text as it is, anything else as JSON), else the whole
body as JSON. -/
def replyText (body : Json.Value) : String :=
  match result? body with
  | none => body.compact
  | some result =>
    match output? result, result with
    | some output, _ => output
    | none, .text s => s
    | none, other => other.compact

/-- How a request ended. -/
structure Arrival where
  log : List Log.Event
  result : Except Error Json.Value

namespace Arrival

def failure (e : Error) : Arrival := ⟨[], .error e⟩

def isSuccess (status : Nat) : Bool := 200 ≤ status && status ≤ 299

def statusWarning (status : Nat) (url : String) : List Log.Event :=
  if isSuccess status then []
  else [⟨.warn, "chat endpoint answered with a non-success status", [("status", toString status), ("url", url)]⟩]

/-- A whole response: the body decides, whatever the status. -/
def ofResponse (status : Nat) (url body : String) : Arrival :=
  ⟨statusWarning status url, decodeBody body⟩

end Arrival

end Parley.Exchange

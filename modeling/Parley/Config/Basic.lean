import Parley.Session.Identity
import Parley.Text.Blank

/-!
# Configuration

Six settings say where requests go, who answers, and what is shown. `Config.normalized` trims them and puts defaults
in the place of blank ones; `Config.requestUrl` joins base and endpoint.
-/

namespace Parley

/-- Where requests go and what is shown. -/
structure Config where
  /-- Path of the chat endpoint, or an absolute URL. -/
  endpoint : String := "/chat"
  /-- What is put before the endpoint by a host that has no origin of its own. -/
  baseUrl : Option String := none
  agentName : String := "mailworker"
  sessionKey : String := Session.defaultKey
  userLabel : String := "You"
  /-- The text of the notification when an exchange fails. -/
  failureMessage : String := "An error occurred while sending the message. Please check the console for details."
  deriving DecidableEq, Repr

namespace Config

def standard : Config := {}

/-- The trimmed text, or the default when nothing is left. -/
def nonBlankOr (value fallback : String) : String :=
  let trimmed := Text.trim value
  if trimmed = "" then fallback else trimmed

/-- Every setting trimmed, blank ones back to their defaults. -/
def normalized (c : Config) : Config where
  endpoint := nonBlankOr c.endpoint standard.endpoint
  baseUrl := (c.baseUrl.map Text.trim).filter fun url => url != ""
  agentName := nonBlankOr c.agentName standard.agentName
  sessionKey := nonBlankOr c.sessionKey standard.sessionKey
  userLabel := nonBlankOr c.userLabel standard.userLabel
  failureMessage := nonBlankOr c.failureMessage standard.failureMessage

/-- The endpoint names its scheme, in lowercase. -/
def isAbsolute (endpoint : List Char) : Bool :=
  "http://".toList.isPrefixOf endpoint || "https://".toList.isPrefixOf endpoint

/-- The base without the slashes at its end, a slash, and the endpoint without the slashes in front of it. -/
def join (base endpoint : List Char) : List Char :=
  (base.reverse.dropWhile (· == '/')).reverse ++ '/' :: endpoint.dropWhile (· == '/')

/-- Where requests go: the endpoint as it is when it is absolute or there is no base, else the two joined. -/
def requestUrl (c : Config) : String :=
  if isAbsolute c.endpoint.toList then c.endpoint
  else
    match c.baseUrl with
    | none => c.endpoint
    | some base => String.ofList (join base.toList c.endpoint.toList)

end Config

end Parley

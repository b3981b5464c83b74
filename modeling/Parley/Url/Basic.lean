import Parley.Url.Host

/-!
# URLs

* `Url` : a scheme, perhaps an authority, a path, perhaps a query and a fragment;
* `Url.text` : the URL as text, `Url.target` : what an HTTP request asks for.
-/

namespace Parley

namespace Url

/-- Whom to ask. The credentials are encoded already. -/
structure Authority where
  user : String := ""
  password : String := ""
  host : Host
  /-- A port other than the scheme's own. -/
  port : Option Nat := none
  deriving DecidableEq, Repr

inductive Path
  | whole (text : String)
  | segments (names : List String)
  deriving DecidableEq, Repr

def Path.text : Path → String
  | whole text => text
  | segments names => String.join (names.map ("/" ++ ·))

end Url

structure Url where
  scheme : String
  authority : Option Url.Authority := none
  path : Url.Path
  query : Option String := none
  fragment : Option String := none
  deriving DecidableEq, Repr

namespace Url

def standardPort (scheme : String) : Option Nat :=
  if scheme = "http" ∨ scheme = "ws" then some 80
  else if scheme = "https" ∨ scheme = "wss" then some 443
  else if scheme = "ftp" then some 21
  else none

/-- The schemes that every browser knows, files apart. -/
def isNetworkScheme (scheme : String) : Bool := (standardPort scheme).isSome

/-- The schemes that every browser knows. -/
def isSpecial (scheme : String) : Bool := isNetworkScheme scheme || scheme == "file"

namespace Authority

/-- User name and password with the `@` after them. -/
def credentials (a : Authority) : String :=
  if a.password ≠ "" then s!"{a.user}:{a.password}@"
  else if a.user ≠ "" then s!"{a.user}@"
  else ""

def address (a : Authority) : String :=
  match a.port with
  | some port => s!"{a.host.text}:{port}"
  | none => a.host.text

end Authority

/-- What introduces the path: the authority, or a sign that there is none where the path could be taken for one. -/
def introduction (u : Url) : String :=
  match u.authority, u.path with
  | some a, _ => "//" ++ a.credentials ++ a.address
  | none, .segments ("" :: _ :: _) => "/."
  | none, _ => ""

def marked (mark : String) : Option String → String
  | some part => mark ++ part
  | none => ""

def text (u : Url) : String :=
  u.scheme ++ ":" ++ u.introduction ++ u.path.text ++ marked "?" u.query ++ marked "#" u.fragment

def anonymous (u : Url) : Url :=
  { u with authority := u.authority.map fun a => { a with user := "", password := "" } }

/-- Path and query, which is what an HTTP request asks for. -/
def target (u : Url) : String := u.path.text ++ marked "?" u.query

def portNumber? (u : Url) : Option Nat :=
  match u.authority.bind Authority.port with
  | some port => some port
  | none => standardPort u.scheme

end Url

end Parley

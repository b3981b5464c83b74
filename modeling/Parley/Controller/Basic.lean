import Parley.Config.Basic
import Parley.Exchange.Request
import Parley.Exchange.Tracker
import Parley.Markdown.Renderer
import Parley.Transcript.Basic

/-!
# The state of a chat

A `Controller` holds the text that is being typed, the session store, the state of every exchange and the transcript.
What an operation does to the world outside is a list of `Effect`s, in order.
-/

namespace Parley

namespace Controller

/-- How far an exchange has got that was handed to the host. -/
inductive Phase
  | unstarted
  | waiting (number : Nat) (request : Exchange.Request)
  /-- It has run to its end, or was dropped. -/
  | gone
  deriving DecidableEq

/-- An exchange that the host runs: its id and the text that was typed. -/
structure Pending where
  exchange : Exchange.Id
  input : String
  phase : Phase := .unstarted
  deriving DecidableEq

inductive Effect
  | view (call : Transcript.ViewCall)
  /-- Shows a message that the user cannot overlook. -/
  | notify (message : String)
  /-- Hands the request of this number to the transport. -/
  | post (number : Nat) (request : Exchange.Request)
  | log (event : Log.Event)
  deriving DecidableEq

end Controller

/-- A chat: its settings, and everything that changes. -/
structure Controller where
  config : Config
  renderer : Markdown.Renderer
  input : String := ""
  store : Session.Store
  tracker : Exchange.Tracker := {}
  transcript : Transcript := {}
  /-- Every exchange handed to the host so far, the first one first. -/
  pending : List Controller.Pending := []
  sent : Nat := 0

namespace Controller

/-- What an operation came to: its result, the state afterwards, and its effects. -/
structure Step (α : Type) where
  result : α
  state : Controller
  effects : List Effect := []

/-- A chat with nothing said yet. Its settings are normalized. -/
def start (config : Config) (renderer : Markdown.Renderer) (store : Session.Store) (view : Transcript.View) :
    Controller where
  config := config.normalized
  renderer
  store
  transcript := { view }

end Controller

end Parley

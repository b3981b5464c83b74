import Parley.Exchange.Script
import Parley.Http.Basic

/-!
# A service that is known beforehand

A `Rehearsal` is a service on this machine whose reactions are prepared. It listens on every port of the loopback
address but the discard port, which refuses connections, and drops connections when no reaction is left.
-/

namespace Parley.Http

structure Rehearsal where
  reactions : List Reaction
  /-- The requests that were received, the first one first. -/
  received : List Post := []
  deriving DecidableEq, Repr

namespace Rehearsal

def loopback : Url.Host := .ipv4 0x7F000001

/-- The port on which nothing listens. -/
def discardPort : Nat := 9

def isReached (url : Url) : Bool :=
  url.scheme == "http" && (url.authority.map (·.host)) == some loopback && url.portNumber? != some discardPort

/-- Sends a request: what comes of it, and the service afterwards. -/
def send (s : Rehearsal) (url : Url) (r : Exchange.Request) : Reaction × Rehearsal :=
  if isReached url then
    (s.reactions.head?.getD .dropped, ⟨s.reactions.tail, s.received ++ [post url r]⟩)
  else (.unreachable, s)

end Rehearsal

end Parley.Http

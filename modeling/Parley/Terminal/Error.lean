import Parley.Config.Error
import Parley.Session.Error

/-!
# Why the terminal client ends
-/

namespace Parley.Terminal

inductive Error
  /-- There is no configuration that can be used. -/
  | config (stage : String) (source : Config.Error)
  | session (stage : String) (source : Session.Error)
  | readInput (stage details : String)
  deriving DecidableEq, Repr

namespace Error

def stage : Error → String
  | config stage _ | session stage _ | readInput stage _ => stage

def message : Error → String
  | config stage source => s!"failed to load configuration on `{stage}`: {source.message}"
  | session stage source => s!"session setup failed on `{stage}`: {source.message}"
  | readInput stage details => s!"failed to read stdin on `{stage}`: {details}"

end Error

end Parley.Terminal

import Parley.Config.Basic
import Parley.Text.Shown

/-!
# Why there is no configuration, or none that can be used
-/

namespace Parley.Config

inductive Error
  /-- A layer that was read from `path` or the environment has no usable settings. -/
  | extract (stage path details : String)
  /-- Requests would go to something that is no absolute URL. -/
  | invalidUrl (stage url details : String)
  | httpClient (stage details : String)
  deriving DecidableEq, Repr

namespace Error

def stage : Error → String
  | extract stage _ _ | invalidUrl stage _ _ | httpClient stage _ => stage

def message : Error → String
  | extract stage path details => s!"failed to read configuration from {Text.shown path} on `{stage}`: {details}"
  | invalidUrl stage url details => s!"chat endpoint '{url}' is not an absolute URL on `{stage}`: {details}"
  | httpClient stage details => s!"failed to build HTTP client on `{stage}`: {details}"

end Error

end Parley.Config

import Parley.Session.Error

/-!
# Why a widget cannot be used on a page
-/

namespace Parley.Page

inductive Error
  | noWindow (stage : String)
  | noDocument (stage : String)
  | missingElement (stage selector : String)
  | notAnInput (stage selector : String)
  | options (stage details : String)
  | dom (stage details : String)
  | session (stage : String) (source : Session.Error)
  deriving DecidableEq, Repr

namespace Error

def stage : Error → String
  | noWindow stage | noDocument stage | missingElement stage _ | notAnInput stage _ | options stage _ | dom stage _
  | session stage _ => stage

def message : Error → String
  | noWindow stage => s!"no browser window available on `{stage}`"
  | noDocument stage => s!"window has no document on `{stage}`"
  | missingElement stage selector => s!"element '{selector}' not found on `{stage}`"
  | notAnInput stage selector => s!"element '{selector}' is not a text input on `{stage}`"
  | options stage details => s!"invalid widget options on `{stage}`: {details}"
  | dom stage details => s!"DOM call failed on `{stage}`: {details}"
  | session stage source => s!"session id unavailable on `{stage}`: {source.message}"

end Error

end Parley.Page

import Parley.Config.Basic
import Parley.Json.Value

/-!
# Settings by name

* `Setting` : the six settings, with the names they have in documents;
* `Given` : what a document or a variable may give for a setting;
* `Config.set?` : every setting takes a text, and a number or a truth value as its text; only the base URL can be
  given as nothing.
-/

namespace Parley.Config

inductive Setting
  | endpoint | baseUrl | agentName | sessionKey | userLabel | failureMessage
  deriving DecidableEq, Repr

namespace Setting

/-- The settings in the order in which they are written. -/
def all : List Setting := [endpoint, baseUrl, agentName, sessionKey, userLabel, failureMessage]

def name : Setting → String
  | endpoint => "endpoint"
  | baseUrl => "base_url"
  | agentName => "agent_name"
  | sessionKey => "session_key"
  | userLabel => "user_label"
  | failureMessage => "failure_message"

/-- The settings in the order of their names. -/
def sorted : List Setting := [agentName, baseUrl, endpoint, failureMessage, sessionKey, userLabel]

def ofName? (name : String) : Option Setting := all.find? fun s => s.name == name

theorem ofName?_name (s : Setting) : ofName? s.name = some s := by
  cases s <;> decide

end Setting

/-- What is given for a setting. -/
inductive Given
  /-- A text, or the text of a number or a truth value. -/
  | text (content : String)
  | nothing
  | compound
  deriving DecidableEq, Repr

def numberText : Json.Number → String
  | .integer n => toString n
  | .float x => x.plainText

def Given.ofJson : Json.Value → Given
  | .text s => .text s
  | .number n => .text (numberText n)
  | .boolean b => .text (toString b)
  | .null => .nothing
  | .array _ | .object _ => .compound

/-- The configuration with one setting as given, if the setting can be that. -/
def set? (c : Config) : Setting → Given → Option Config
  | .endpoint, .text s => some { c with endpoint := s }
  | .baseUrl, .text s => some { c with baseUrl := some s }
  | .baseUrl, .nothing => some { c with baseUrl := none }
  | .agentName, .text s => some { c with agentName := s }
  | .sessionKey, .text s => some { c with sessionKey := s }
  | .userLabel, .text s => some { c with userLabel := s }
  | .failureMessage, .text s => some { c with failureMessage := s }
  | _, _ => none

def notText : String := "data did not match any variant of untagged enum ScalarText"

/-- The complaint about a setting that is given twice. -/
def duplicate (name : String) : String := s!"duplicate field `{name}`"

end Parley.Config

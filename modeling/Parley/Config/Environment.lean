import Parley.Config.EnvValue
import Parley.Text.Pieces

/-!
# Settings from environment variables

A variable whose name starts with `CHATLINE_`, in letters of any case, gives the setting that the rest of its name
says. A point in that rest makes the variable an entry of a dictionary.
-/

namespace Parley.Config

def variableStart : String := "CHATLINE_"

/-- The environment: names and values, in order. -/
abbrev Environment := List (String × String)

namespace Environment

def find? (env : Environment) (name : String) : Option String := env.lookup name

/-- The environment with one more variable, which takes the place of one of its name. -/
def put (env : Environment) (name value : String) : Environment :=
  if env.any (fun v => v.1 == name) then env.map fun v => if v.1 == name then (name, value) else v
  else env ++ [(name, value)]

/-- The environment of a list of variables; of two with one name the later counts. -/
def ofPairs (pairs : List (String × String)) : Environment :=
  pairs.foldl (fun env v => env.put v.1 v.2) []

/-- The rest of a text after a start that is compared without regard to the case of English letters. -/
def afterStart? (start cs : List Char) : Option (List Char) :=
  if (cs.take start.length).map Char.toLower = start.map Char.toLower then some (cs.drop start.length) else none

/-- What a variable's name says: the parts of the rest of its name, all of them not empty. -/
def keyParts? (name : String) : Option (List String) :=
  match afterStart? variableStart.toList (Text.trimChars name.toList) with
  | none => none
  | some rest =>
    let parts := Text.pieces '.' ((Text.trimChars rest).map Char.toLower)
    if parts.any List.isEmpty then none else some (parts.map String.ofList)

def entry? (v : String × String) : Option (String × Given) :=
  match keyParts? v.1 with
  | some [name] => some (name, (EnvValue.parse v.2).given)
  | some (name :: _) => some (name, .compound)
  | _ => none

/-- What the variables give for a setting; the last one counts. -/
def given? (env : Environment) (s : Setting) : Option Given :=
  (env.filterMap entry?).reverse.lookup s.name

end Environment

end Parley.Config

import Parley.Config.Document
import Parley.Config.Environment
import Parley.Config.Error
import Parley.Config.Path

/-!
# Loading the configuration

Three layers say what a setting is: the defaults, the configuration file, and the environment. For each setting the
last layer that gives it counts (`Layers.given?`); what the other layers give for it is not looked at.
-/

namespace Parley.Config
open Json (Value Fault)

/-- What is found at the path of the configuration file. -/
inductive Found
  | nothing
  | notFile
  | file (content : String)
  | unreadable (details : String)
  deriving DecidableEq, Repr

/-- The name of the directory with the configuration file. -/
def directoryName : String := "chatline"

def fileName : String := "config.json"

/-- Where programs of this user keep their configurations: `XDG_CONFIG_HOME` when that is an absolute path, else
`.config` in the home directory. -/
def userDirectory? (env : Environment) (home : Option String) : Option String :=
  match (env.find? "XDG_CONFIG_HOME").filter Path.isAbsolute with
  | some directory => some directory
  | none => home.map fun h => Path.join h ".config"

/-- The directory with the configuration file, unless another file is chosen. -/
def standardDirectory (env : Environment) (home : Option String) : String :=
  match userDirectory? env home with
  | some directory => Path.join directory directoryName
  | none => ".chatline"

/-- The configuration file, unless another one is chosen. -/
def standardPath (env : Environment) (home : Option String) : String :=
  Path.join (standardDirectory env home) fileName

/-- The members of the object that a configuration file is. -/
def fileMembers (content : String) : Except String Json.Members :=
  let whole := content.toList
  let read : Except Fault Value :=
    match Json.Reader.skipBlank whole with
    | [] => .error (.atEnd .endInValue)
    | '{' :: _ => Json.Reader.document whole
    | cs => .error (Json.Reader.unexpected "a map" cs)
  match read with
  | .error f => .error (f.message whole)
  | .ok (.object ms) => .ok ms
  | .ok _ => .ok []

/-- The layers over the defaults. -/
structure Layers where
  file : Json.Members
  environment : Environment
  fileLabel : String

inductive Origin
  | file | environment
  deriving DecidableEq, Repr

namespace Layers

/-- What counts for a setting, if any layer over the defaults gives it. -/
def given? (l : Layers) (s : Setting) : Option (Origin × Given) :=
  match l.environment.given? s with
  | some g => some (.environment, g)
  | none => (l.file.find? s.name).map fun v => (.file, .ofJson v)

def place (l : Layers) (s : Setting) : Origin → String
  | .file => s!" for key \"default.{s.name}\" in {l.fileLabel} JSON file"
  | .environment => s!" for key \"{s.name.toUpper}\" in `{variableStart}` environment variable(s)"

def assign (l : Layers) (c : Config) (s : Setting) : Except String Config :=
  match l.given? s with
  | none => .ok c
  | some (origin, g) =>
    match c.set? s g with
    | some c => .ok c
    | none => .error (notText ++ l.place s origin)

/-- The configuration that all layers make together. -/
def config (l : Layers) : Except String Config :=
  Setting.sorted.foldlM l.assign standard

end Layers

/-- A configuration with what was told while it was loaded. -/
structure Loading where
  result : Except Error Config
  log : List Log.Event

/-- What is told when there is no configuration file. -/
def notFound (path : String) : Log.Event :=
  ⟨.debug, s!"config file not found at {Text.shown path}, using defaults", []⟩

/-- Loads the configuration with what was found at `path`, seen from the working directory. -/
def load (directory path : String) (found : Found) (env : Environment) : Loading :=
  let label := Path.seenFrom directory (Path.join directory path)
  let file : Except String Json.Members :=
    match found with
    | .nothing | .notFile => .ok []
    | .file content => (fileMembers content).mapError (· ++ s!" in {label} JSON file")
    | .unreadable details => .error s!"{details} in {label} JSON file"
  let result := file.bind fun ms => (Layers.mk ms env label).config
  let log := if found = .nothing then [notFound path] else []
  ⟨(result.mapError (.extract "extract-widget-config" path)).map normalized, log⟩

end Parley.Config

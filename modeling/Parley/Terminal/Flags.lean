import Parley.Config.Load
import Parley.Session.Identity
import Parley.Terminal.Error

/-!
# The command line of the terminal client

Five flags take a value, which follows the flag after `=` or as the next argument. A value that is an argument of its
own is looked at when the next flag comes or the arguments end, so that an argument that is no flag at all is refused
first.
-/

namespace Parley.Terminal

inductive Flag
  | baseUrl | endpoint | agent | config | sessionId
  deriving DecidableEq, Repr

namespace Flag

def all : List Flag := [baseUrl, endpoint, agent, config, sessionId]

/-- The name of a flag, without the hyphens in front of it. -/
def name : Flag → String
  | baseUrl => "base-url"
  | endpoint => "endpoint"
  | agent => "agent"
  | config => "config"
  | sessionId => "session-id"

def ofName? (name : String) : Option Flag := all.find? fun f => f.name == name

end Flag

/-- Why a command line is not carried out. -/
inductive Refusal
  | unknownArgument
  | missingValue
  | emptyPath
  | givenTwice
  | badSessionId
  | unwantedValue
  | helpWanted
  deriving DecidableEq, Repr

structure Flags where
  baseUrl? : Option String := none
  endpoint? : Option String := none
  agent? : Option String := none
  config? : Option String := none
  sessionId? : Option SessionId := none
  deriving DecidableEq

namespace Flags

def has (fs : Flags) : Flag → Bool
  | .baseUrl => fs.baseUrl?.isSome
  | .endpoint => fs.endpoint?.isSome
  | .agent => fs.agent?.isSome
  | .config => fs.config?.isSome
  | .sessionId => fs.sessionId?.isSome

/-- Takes the value of a flag that was not given before. -/
def put (fs : Flags) (value : String) : Flag → Except Refusal Flags
  | .baseUrl => .ok { fs with baseUrl? := some value }
  | .endpoint => .ok { fs with endpoint? := some value }
  | .agent => .ok { fs with agent? := some value }
  | .config => if value = "" then .error .emptyPath else .ok { fs with config? := some value }
  | .sessionId =>
    match SessionId.parse? value with
    | some id => .ok { fs with sessionId? := some id }
    | none => .error .badSessionId

def take (fs : Flags) (f : Flag) : Option String → Except Refusal Flags
  | none => .error .missingValue
  | some value => if fs.has f then .error .givenTwice else fs.put value f

end Flags

inductive Argument
  /-- Two hyphens: everything after them is a value. -/
  | separator
  | long (name : String) (value : Option String)
  | short (letters : List Char)
  | plain (text : String)
  deriving DecidableEq, Repr

/-- The form of an argument. A single hyphen is a value. -/
def Argument.ofText (text : String) : Argument :=
  match text.toList with
  | ['-', '-'] => separator
  | '-' :: '-' :: cs =>
    long (String.ofList (cs.takeWhile (· != '=')))
      (match cs.dropWhile (· != '=') with
       | [] => none
       | _ :: value => some (String.ofList value))
  | '-' :: c :: cs => short (c :: cs)
  | _ => plain text

structure Reading where
  flags : Flags := {}
  /-- A flag that was not looked at yet, with its value if that came. -/
  pending : Option (Flag × Option String) := none
  closed : Bool := false
  deriving DecidableEq

namespace Reading

def settle (r : Reading) : Except Refusal Reading :=
  match r.pending with
  | none => .ok r
  | some (f, value) => (r.flags.take f value).map fun flags => { r with flags, pending := none }

def step (r : Reading) (text : String) : Except Refusal Reading :=
  if r.closed then .error .unknownArgument
  else
    match Argument.ofText text with
    | .separator => .ok { r with closed := true }
    | .long name value =>
      match Flag.ofName? name, value with
      | some f, none => r.settle.map fun r => { r with pending := some (f, none) }
      | some f, some value =>
        r.settle.bind fun r => (r.flags.take f (some value)).map fun flags => { r with flags }
      | none, value =>
        if name = "help" then
          match value with
          | none => r.settle.bind fun _ => .error .helpWanted
          | some _ => .error .unwantedValue
        else .error .unknownArgument
    | .short letters =>
      if letters.head? = some 'h' then r.settle.bind fun _ => .error .helpWanted else .error .unknownArgument
    | .plain text =>
      match r.pending with
      | some (f, none) => .ok { r with pending := some (f, some text) }
      | _ => .error .unknownArgument

end Reading

namespace Flags

def parse (args : List String) : Except Refusal Flags :=
  ((args.foldlM Reading.step {}).bind Reading.settle).map Reading.flags

/-- Where requests go when neither the configuration nor a flag says so. -/
def fallbackBaseUrl : String := "http://127.0.0.1:8000"

def configPath (fs : Flags) (env : Config.Environment) (home : Option String) : String :=
  fs.config?.getD (Config.standardPath env home)

/-- The configuration with the flags in place of what it says. -/
def override (fs : Flags) (c : Config) : Config :=
  { c with
    baseUrl := fs.baseUrl?.or c.baseUrl
    endpoint := fs.endpoint?.getD c.endpoint
    agentName := fs.agent?.getD c.agentName }

/-- The configuration that the client uses: normalized, and with a base URL in any case. -/
def configure (fs : Flags) (c : Config) : Config :=
  let c := (fs.override c).normalized
  { c with baseUrl := some (c.baseUrl.getD fallbackBaseUrl) }

/-- The configuration that the client uses, after loading it. -/
def configuration (fs : Flags) (loading : Config.Loading) : Except Error Config :=
  (loading.result.mapError (.config "load-config")).map fs.configure

end Flags

end Parley.Terminal

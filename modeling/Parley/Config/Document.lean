import Parley.Config.Setting
import Parley.Json.Mismatch
import Parley.Json.Skip

/-!
# Configurations as JSON documents

* `Config.serialize` : the object of all six settings, in the order in which they are declared;
* `Config.parse` : an object, whose members of other names are passed over, or an array of the settings in that order;
  settings that are not given have their defaults;
* `Config.ofMembers` : the same rules for members that are values already.
-/

namespace Parley.Config
open Json (Value Fault Quoted.decode Reader.Result)
open Json.Reader (nextItem nextName colon closing withinObject withinArray innerDepth)

def value (c : Config) : Setting → Value
  | .endpoint => .text c.endpoint
  | .baseUrl => (c.baseUrl.map Value.text).getD .null
  | .agentName => .text c.agentName
  | .sessionKey => .text c.sessionKey
  | .userLabel => .text c.userLabel
  | .failureMessage => .text c.failureMessage

def members (c : Config) : List (String × Value) :=
  Setting.all.map fun s => (s.name, c.value s)

def serialize (c : Config) : String :=
  String.ofList ('{' :: Json.memberChars c.members ++ ['}'])

/-- A configuration while it is read: the settings that were given are in `seen`. -/
structure Draft where
  config : Config := standard
  seen : List Setting := []
  deriving DecidableEq, Repr

namespace Draft

def put? (d : Draft) (s : Setting) (v : Value) : Option Draft :=
  (d.config.set? s (.ofJson v)).map fun config => ⟨config, s :: d.seen⟩

/-- Reads the members of an object after its opening bracket. -/
def readMembers : Nat → Bool → Draft → List Char → Reader.Result Config
  | 0, _, _, cs => .error (.before .endInObject cs)
  | fuel + 1, first, d, cs =>
    match nextName first cs with
    | .error f => .error f
    | .ok none => .ok (d.config, closing cs)
    | .ok (some cs) =>
      match Quoted.decode cs with
      | .error f => .error f
      | .ok (name, cs) =>
        match Setting.ofName? (String.ofList name) with
        | none =>
          match (colon cs).bind Json.Skip.value with
          | .error f => .error f
          | .ok cs => readMembers fuel false d cs
        | some s =>
          if d.seen.contains s then .error (withinObject (duplicate s.name) cs)
          else
            match (colon cs).bind (Json.Reader.value innerDepth) with
            | .error f => .error f
            | .ok (v, cs) =>
              match d.put? s v with
              | none => .error (withinObject notText cs)
              | some d => readMembers fuel false d cs

/-- Reads settings in their order after the opening bracket of an array. -/
def readItems : List Setting → Bool → Draft → List Char → Reader.Result Config
  | [], _, d, cs => (Json.Reader.endOfArray cs).map (d.config, ·)
  | s :: ss, first, d, cs =>
    match nextItem first cs with
    | .error f => .error f
    | .ok none => .ok (d.config, closing cs)
    | .ok (some cs) =>
      match Json.Reader.value innerDepth cs with
      | .error f => .error f
      | .ok (v, cs) =>
        match d.put? s v with
        | none => .error (withinArray notText cs)
        | some d => readItems ss false d cs

/-- Takes members that are values already; those of other names are passed over. -/
def putMembers (d : Draft) : List (String × Value) → Except String Draft
  | [] => .ok d
  | (name, v) :: ms =>
    match Setting.ofName? name with
    | none => d.putMembers ms
    | some s =>
      if d.seen.contains s then .error (duplicate s.name)
      else
        match d.put? s v with
        | none => .error notText
        | some d => d.putMembers ms

end Draft

def expected : String := "struct WidgetConfig"

def read (cs : List Char) : Reader.Result Config :=
  match Json.Reader.skipBlank cs with
  | [] => .error (.atEnd .endInValue)
  | '{' :: rest => Draft.readMembers (rest.length + 1) true {} rest
  | '[' :: rest => Draft.readItems Setting.all true {} rest
  | cs => .error (Json.Reader.unexpected expected cs)

def document (cs : List Char) : Except Fault Config :=
  match read cs with
  | .error f => .error f
  | .ok (c, rest) => (Json.Reader.finish rest).map fun _ => c

/-- The configuration in a JSON text, or what is wrong with the text and where. -/
def parse (s : String) : Except String Config :=
  (document s.toList).mapError fun f => f.message s.toList

def ofMembers (ms : List (String × Value)) : Except String Config :=
  (Draft.putMembers {} ms).map Draft.config

end Parley.Config

import Parley.Config.Document

/-!
# Options of a widget on a page

The ids of the two elements that the widget binds to stand next to the settings of the chat in one object.
-/

namespace Parley.Page
open Json (Value Fault)
open Json.Reader (nextName colon closing withinObject innerDepth)

structure Options where
  inputId : String := "user-input"
  /-- The id of the container of the transcript, or a class of it. -/
  transcriptId : String := "chat-box"
  config : Config := .standard
  deriving DecidableEq, Repr

namespace Options

def standard : Options := {}

inductive ElementName
  | input | transcript
  deriving DecidableEq, Repr

def ElementName.name : ElementName → String
  | input => "input_id"
  | transcript => "transcript_id"

def ElementName.ofName? (name : String) : Option ElementName :=
  if name = ElementName.input.name then some .input
  else if name = ElementName.transcript.name then some .transcript
  else none

/-- Options while they are read. -/
structure Draft where
  input? : Option String := none
  transcript? : Option String := none
  /-- All other members, the last one first. -/
  others : List (String × Value) := []

namespace Draft

def get? (d : Draft) : ElementName → Option String
  | .input => d.input?
  | .transcript => d.transcript?

def put (d : Draft) (id : String) : ElementName → Draft
  | .input => { d with input? := some id }
  | .transcript => { d with transcript? := some id }

def finish (d : Draft) : Except String Options :=
  (Config.ofMembers d.others.reverse).map fun config =>
    ⟨d.input?.getD standard.inputId, d.transcript?.getD standard.transcriptId, config⟩

/-- Reads the members of an object after its opening bracket. -/
def readMembers : Nat → Bool → Draft → List Char → Json.Reader.Result Options
  | 0, _, _, cs => .error (.before .endInObject cs)
  | fuel + 1, first, d, cs =>
    match nextName first cs with
    | .error f => .error f
    | .ok none =>
      match d.finish with
      | .error complaint => .error (withinObject complaint cs)
      | .ok options => .ok (options, closing cs)
    | .ok (some cs) =>
      match Json.Quoted.decode cs with
      | .error f => .error f
      | .ok (name, cs) =>
        let name := String.ofList name
        match ElementName.ofName? name with
        | none =>
          match (colon cs).bind (Json.Reader.value innerDepth) with
          | .error f => .error f
          | .ok (v, cs) => readMembers fuel false { d with others := (name, v) :: d.others } cs
        | some e =>
          if (d.get? e).isSome then .error (withinObject (Config.duplicate name) cs)
          else
            match (colon cs).bind Json.Reader.string with
            | .error f => .error f
            | .ok (id, cs) => readMembers fuel false (d.put id e) cs

def putMembers (d : Draft) : List (String × Value) → Except String Draft
  | [] => .ok d
  | (name, v) :: ms =>
    match ElementName.ofName? name with
    | none => putMembers { d with others := (name, v) :: d.others } ms
    | some e =>
      if (d.get? e).isSome then .error (Config.duplicate name)
      else
        match v with
        | .text id => putMembers (d.put id e) ms
        | v => .error (Json.wrongKind v "a string")

end Draft

def expected : String := "struct WidgetOptions"

def read (cs : List Char) : Json.Reader.Result Options :=
  match Json.Reader.skipBlank cs with
  | [] => .error (.atEnd .endInValue)
  | '{' :: rest => Draft.readMembers (rest.length + 1) true {} rest
  | cs => .error (Json.Reader.unexpected expected cs)

def document (cs : List Char) : Except Fault Options :=
  match read cs with
  | .error f => .error f
  | .ok (o, rest) => (Json.Reader.finish rest).map fun _ => o

/-- The options in a JSON text, or what is wrong with the text and where. -/
def parse (s : String) : Except String Options :=
  (document s.toList).mapError fun f => f.message s.toList

def ofValue : Value → Except String Options
  | .object ms => (Draft.putMembers {} ms).bind Draft.finish
  | v => .error (Json.wrongKind v expected)

end Options

end Parley.Page

import Parley.Json.Printer
import Parley.Json.Reader
import Parley.Text.Shown

/-!
# Values of the wrong kind

A reader of particular data says what it found and what it expected. Such a complaint has no place of its own: it is
put where the reader stands when it has tried to leave the container around the value.
-/

namespace Parley.Json

def Value.kind : Value → String
  | .null => "null"
  | .boolean b => s!"boolean `{b}`"
  | .number (.integer n) => s!"integer `{n}`"
  | .number (.float x) => s!"floating point `{x.jsonText}`"
  | .text s => s!"string {Text.shown s}"
  | .array _ => "sequence"
  | .object _ => "map"

def wrongKind (v : Value) (expected : String) : String :=
  s!"invalid type: {v.kind}, expected {expected}"

namespace Reader

/-- The place after the end of an object, if that comes next. -/
def leaveObject (cs : List Char) : List Char :=
  match skipBlank cs with
  | '}' :: rest => rest
  | rest => rest

/-- The place after the end of an array, or after a comma and the blanks that follow it. -/
def leaveArray (cs : List Char) : List Char :=
  match skipBlank cs with
  | ']' :: rest => rest
  | ',' :: rest => skipBlank rest
  | rest => rest

def withinObject (complaint : String) (cs : List Char) : Fault :=
  .before (.mismatch complaint) (leaveObject cs)

def withinArray (complaint : String) (cs : List Char) : Fault :=
  .before (.mismatch complaint) (leaveArray cs)

/-- The fault of a value of the wrong kind at the front of a text; of containers only the bracket is looked at. -/
def unexpected (expected : String) (cs : List Char) : Fault :=
  match skipBlank cs with
  | '[' :: rest => .before (.mismatch (wrongKind (.array []) expected)) ('[' :: rest)
  | '{' :: rest => .before (.mismatch (wrongKind (.object []) expected)) ('{' :: rest)
  | cs =>
    match node none cs with
    | .error f => f
    | .ok (v, rest) => .before (.mismatch (wrongKind v expected)) rest

def string (cs : List Char) : Result String :=
  match skipBlank cs with
  | '"' :: rest => (Quoted.decode rest).map fun r => (String.ofList r.1, r.2)
  | cs => .error (unexpected "a string" cs)

/-- The text after an array of which no more items are wanted. -/
def endOfArray (cs : List Char) : Except Fault (List Char) :=
  match skipBlank cs with
  | [] => .error (.atEnd .endInArray)
  | ']' :: rest => .ok rest
  | ',' :: rest =>
    match skipBlank rest with
    | ']' :: rest => .error (.ofNext .trailingComma (']' :: rest))
    | rest => .error (.ofNext .trailingText rest)
  | rest => .error (.ofNext .trailingText rest)

/-- How many containers may be open within the outermost one. -/
def innerDepth : Nat := maxDepth - 1

end Reader

end Parley.Json

import Parley.Json.Numeral
import Parley.Json.Quoted

/-!
# Reading JSON

* `value` : one value at the front of a text, with a bound on how deep arrays and objects may nest;
* `document` : a text that is one value;
* `skipBlank`, `name`, `colon` and `closing` are the pieces of which readers of particular data are made.
-/

namespace Parley.Json.Reader

/-- A reader answers with what it found and the text after it. -/
abbrev Result (α : Type) := Except Fault (α × List Char)

/-- Space, tab, line feed and carriage return. -/
def isBlank (c : Char) : Bool :=
  c == ' ' || c == '\n' || c == '\t' || c == '\r'

def skipBlank (cs : List Char) : List Char :=
  cs.dropWhile isBlank

def keyword : List Char → List Char → Except Fault (List Char)
  | [], rest => .ok rest
  | _ :: _, [] => .error (.atEnd .endInValue)
  | w :: ws, c :: rest => if c = w then keyword ws rest else .error (.ofNext .expectedKeyword (c :: rest))

/-- How many containers may be open at once. -/
def maxDepth : Nat := 127

/-- The place of an item in an array: whether another one follows, and the text from there. -/
def nextItem (first : Bool) (cs : List Char) : Except Fault (Option (List Char)) :=
  match skipBlank cs with
  | [] => .error (.atEnd .endInArray)
  | ']' :: _ => .ok none
  | ',' :: rest =>
    if first then .ok (some (',' :: rest))
    else
      match skipBlank rest with
      | [] => .error (.atEnd .endInValue)
      | ']' :: rest => .error (.ofNext .trailingComma (']' :: rest))
      | rest => .ok (some rest)
  | rest => if first then .ok (some rest) else .error (.ofNext .expectedItemEnd rest)

/-- The place of a member in an object: whether another one follows, and the text after the quote of its name. -/
def nextName (first : Bool) (cs : List Char) : Except Fault (Option (List Char)) :=
  match skipBlank cs with
  | [] => .error (.atEnd .endInObject)
  | '}' :: _ => .ok none
  | c :: rest =>
    if c = ',' ∧ ¬first then
      match skipBlank rest with
      | [] => .error (.atEnd .endInValue)
      | '"' :: rest => .ok (some rest)
      | '}' :: rest => .error (.ofNext .trailingComma ('}' :: rest))
      | rest => .error (.ofNext .nameNotString rest)
    else if ¬first then .error (.ofNext .expectedMemberEnd (c :: rest))
    else if c = '"' then .ok (some rest)
    else .error (.ofNext .nameNotString (c :: rest))

/-- The text after the colon between name and value. -/
def colon (cs : List Char) : Except Fault (List Char) :=
  match skipBlank cs with
  | [] => .error (.atEnd .endInObject)
  | ':' :: rest => .ok rest
  | rest => .error (.ofNext .expectedColon rest)

/-- A name after its opening quote, and the text after the colon. -/
def name (cs : List Char) : Result String :=
  match Quoted.decode cs with
  | .error f => .error f
  | .ok (s, rest) =>
    match colon rest with
    | .error f => .error f
    | .ok rest => .ok (String.ofList s, rest)

/-- The text after the bracket that `nextItem` or `nextName` saw. -/
def closing (cs : List Char) : List Char :=
  (skipBlank cs).tail

/-- The items of an array after its opening bracket. -/
def items (item : List Char → Result Value) : Nat → Bool → List Char → Result (List Value)
  | 0, _, cs => .error (.before .endInArray cs)
  | fuel + 1, first, cs =>
    match nextItem first cs with
    | .error f => .error f
    | .ok none => .ok ([], closing cs)
    | .ok (some cs) =>
      match item cs with
      | .error f => .error f
      | .ok (v, cs) =>
        match items item fuel false cs with
        | .error f => .error f
        | .ok (vs, cs) => .ok (v :: vs, cs)

/-- The members of an object after its opening bracket, as written. -/
def members (item : List Char → Result Value) : Nat → Bool → List Char → Result (List (String × Value))
  | 0, _, cs => .error (.before .endInObject cs)
  | fuel + 1, first, cs =>
    match nextName first cs with
    | .error f => .error f
    | .ok none => .ok ([], closing cs)
    | .ok (some cs) =>
      match name cs with
      | .error f => .error f
      | .ok (s, cs) =>
        match item cs with
        | .error f => .error f
        | .ok (v, cs) =>
          match members item fuel false cs with
          | .error f => .error f
          | .ok (ms, cs) => .ok ((s, v) :: ms, cs)

/-- A value that is not a container, or a container whose parts `item` reads; there is no `item` where no more
containers may open. -/
def node (item : Option (List Char → Result Value)) (cs : List Char) : Result Value :=
  match skipBlank cs with
  | [] => .error (.atEnd .endInValue)
  | c :: rest =>
    if c = '"' then (Quoted.decode rest).map fun r => (.text (String.ofList r.1), r.2)
    else if c = '[' then
      match item with
      | none => .error (.ofNext .tooDeep (c :: rest))
      | some item => (items item (rest.length + 1) true rest).map fun r => (.array r.1, r.2)
    else if c = '{' then
      match item with
      | none => .error (.ofNext .tooDeep (c :: rest))
      | some item => (members item (rest.length + 1) true rest).map fun r => (.object (Members.ofPairs r.1), r.2)
    else if c = 'n' then (keyword ['u', 'l', 'l'] rest).map fun r => (.null, r)
    else if c = 't' then (keyword ['r', 'u', 'e'] rest).map fun r => (.boolean true, r)
    else if c = 'f' then (keyword ['a', 'l', 's', 'e'] rest).map fun r => (.boolean false, r)
    else if c = '-' then (Numeral.decode true rest).map fun r => (.number r.1, r.2)
    else if Numeral.isDigit c then (Numeral.decode false (c :: rest)).map fun r => (.number r.1, r.2)
    else .error (.ofNext .expectedValue (c :: rest))

/-- One value in which at most `depth` containers are open at once. -/
def value : Nat → List Char → Result Value
  | 0 => node none
  | depth + 1 => node (some (value depth))

/-- Nothing but blanks is left. -/
def finish (cs : List Char) : Except Fault Unit :=
  match skipBlank cs with
  | [] => .ok ()
  | rest => .error (.ofNext .trailingText rest)

def document (cs : List Char) : Except Fault Value :=
  match value maxDepth cs with
  | .error f => .error f
  | .ok (v, rest) =>
    match finish rest with
    | .error f => .error f
    | .ok () => .ok v

end Parley.Json.Reader

namespace Parley.Json

/-- The value of a JSON text, or what is wrong with it and where. -/
def Value.parse (s : String) : Except String Value :=
  (Reader.document s.toList).mapError fun f => f.message s.toList

end Parley.Json

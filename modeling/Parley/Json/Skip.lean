import Parley.Json.Reader

/-!
# Passing over a JSON value

`Skip.value` finds the end of a value that nobody wants. It keeps the open brackets in a list, so that nesting has no
bound; it does not look at the size of numbers, and takes a comma before a closing bracket for the start of an item.
-/

namespace Parley.Json.Skip
open Reader (skipBlank keyword)

inductive Bracket
  | array | object
  deriving DecidableEq, Repr

/-- Where in the open containers the reader stands. -/
inductive Place
  | value
  /-- Just after an opening bracket. -/
  | opened
  /-- After an item or a member. -/
  | between
  deriving DecidableEq, Repr

def exponent (cs : List Char) : Except Fault (List Char) :=
  let cs :=
    match cs with
    | '+' :: rest | '-' :: rest => rest
    | _ => cs
  match cs with
  | [] => .error (.atEnd .badNumber)
  | c :: rest =>
    if Numeral.isDigit c then .ok (rest.dropWhile Numeral.isDigit) else .error (.ofNext .badNumber (c :: rest))

def number : List Char → Except Fault (List Char)
  | [] => .error (.atEnd .badNumber)
  | c :: cs =>
    if ¬Numeral.isDigit c then .error (.ofNext .badNumber (c :: cs))
    else if c = '0' ∧ Numeral.startsWithDigit cs then .error (.ofNext .badNumber cs)
    else
      match cs.dropWhile Numeral.isDigit with
      | '.' :: rest =>
        if ¬Numeral.startsWithDigit rest then .error (.ofNext .badNumber rest)
        else
          match rest.dropWhile Numeral.isDigit with
          | 'e' :: rest | 'E' :: rest => exponent rest
          | rest => .ok rest
      | 'e' :: rest | 'E' :: rest => exponent rest
      | rest => .ok rest

def name (cs : List Char) : Except Fault (List Char) :=
  match skipBlank cs with
  | [] => .error (.atEnd .endInObject)
  | '"' :: rest =>
    match Quoted.skip rest with
    | .error f => .error f
    | .ok rest => Reader.colon rest
  | rest => .error (.ofNext .nameNotString rest)

/-- What comes at the place of a value: the end of a simple one, or an opening bracket. -/
def front (cs : List Char) : Except Fault (Option Bracket × List Char) :=
  match skipBlank cs with
  | [] => .error (.atEnd .endInValue)
  | c :: rest =>
    if c = '"' then (Quoted.skip rest).map (none, ·)
    else if c = '[' then .ok (some .array, rest)
    else if c = '{' then .ok (some .object, rest)
    else if c = 'n' then (keyword ['u', 'l', 'l'] rest).map (none, ·)
    else if c = 't' then (keyword ['r', 'u', 'e'] rest).map (none, ·)
    else if c = 'f' then (keyword ['a', 'l', 's', 'e'] rest).map (none, ·)
    else if c = '-' then (number rest).map (none, ·)
    else if Numeral.isDigit c then (number (c :: rest)).map (none, ·)
    else .error (.ofNext .expectedValue (c :: rest))

/-- Goes on until every bracket of `opens` is closed. -/
def run : Nat → Place → List Bracket → List Char → Except Fault (List Char)
  | 0, _, _, cs => .error (.before .endInValue cs)
  | fuel + 1, .value, opens, cs =>
    match front cs with
    | .error f => .error f
    | .ok (some b, cs) => run fuel .opened (b :: opens) cs
    | .ok (none, cs) => if opens = [] then .ok cs else run fuel .between opens cs
  | _ + 1, _, [], cs => .ok cs
  | fuel + 1, place, b :: opens, cs =>
    let enter (cs : List Char) :=
      match b with
      | .array => run fuel .value (b :: opens) cs
      | .object =>
        match name cs with
        | .error f => .error f
        | .ok cs => run fuel .value (b :: opens) cs
    match skipBlank cs with
    | [] => .error (.atEnd (if b = .array then .endInArray else .endInObject))
    | c :: rest =>
      if c = (if b = .array then ']' else '}') then
        if opens = [] then .ok rest else run fuel .between opens rest
      else if place = .opened then enter (c :: rest)
      else if c = ',' then enter rest
      else .error (.ofNext (if b = .array then .expectedItemEnd else .expectedMemberEnd) (c :: rest))

theorem run_comma {fuel : Nat} {opens : List Bracket} (cs : List Char) :
    run (fuel + 1) .between (.array :: opens) (',' :: cs) = run fuel .value (.array :: opens) cs := by
  rw [run.eq_def]
  rfl

def value (cs : List Char) : Except Fault (List Char) :=
  run (2 * cs.length + 2) .value [] cs

end Parley.Json.Skip

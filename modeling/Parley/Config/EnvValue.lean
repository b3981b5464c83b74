import Parley.Config.Setting
import Parley.Decimal.Scan
import Parley.Text.Blank
import Parley.Text.Hex

/-!
# Values of environment variables

A variable holds a truth value, a number, a quoted text, a list in brackets, a dictionary in braces, a character
between single quotes, or else plain text. Whatever does not follow these rules to its end is plain text as it stands.
-/

namespace Parley.Config

inductive EnvValue
  | boolean (b : Bool)
  | integer (n : Int)
  | float (x : Binary64)
  | text (s : String)
  /-- A list, a dictionary or a single character. -/
  | compound
  deriving DecidableEq, Repr

namespace EnvValue

def given : EnvValue → Given
  | boolean b => .text (toString b)
  | integer n => .text (toString n)
  | float x => .text x.plainText
  | text s => .text s
  | compound => .compound

/-- The blanks that may stand between the parts of a value. -/
def isBlank (c : Char) : Bool :=
  c == ' ' || c == '\t' || c == '\n' || c == '\x0c' || c == '\r'

def skipBlank (cs : List Char) : List Char := cs.dropWhile isBlank

def isSeparator (c : Char) : Bool :=
  c == ',' || c == '{' || c == '}' || c == '[' || c == ']'

def isNameChar (c : Char) : Bool :=
  c.isAlphanum || c == '_' || c == '-'

/-- The range of whole numbers of 64 bits, with a sign or without. -/
def inRange (n : Int) : Bool := -0x8000000000000000 ≤ n && n < 0x10000000000000000

/-- A whole number: a sign and digits. -/
def wholeNumber? (cs : List Char) : Option Int :=
  let (negative, ds) := Decimal.sign cs
  if ds.isEmpty || !ds.all Decimal.isDigit then none
  else
    let n := Int.ofNat (Decimal.digitsValue ds)
    let n := if negative then -n else n
    if inRange n then some n else none

/-- A trimmed text that is not quoted. Only a text with a point in it can be a double. -/
def ofPlain (cs : List Char) : EnvValue :=
  match (if cs.contains '.' then Binary64.ofNumeral? cs else none), wholeNumber? cs with
  | some x, _ => .float x
  | none, some n => .integer n
  | none, none => .text (String.ofList cs)

/-- The text up to the next quote that no backslash precedes, and the text from that quote on. -/
def quotedPart : List Char → List Char × List Char
  | [] => ([], [])
  | '\\' :: c :: cs =>
    let (inner, rest) := quotedPart cs
    ('\\' :: c :: inner, rest)
  | c :: cs =>
    if c = '"' then ([], c :: cs)
    else
      let (inner, rest) := quotedPart cs
      (c :: inner, rest)

/-- The character with this number of hexadecimal digits at the front of a text. -/
def coded? (count : Nat) (cs : List Char) : Option Char :=
  if cs.length < count then none
  else
    match Text.Hex.value? (cs.take count) with
    | none => none
    | some n => if h : n.isValidChar then some (Char.ofNatAux n h) else none

def unescape? : List Char → Option (List Char)
  | [] => some []
  | '\\' :: 'u' :: a :: b :: c :: d :: cs =>
    match coded? 4 [a, b, c, d] with
    | none => none
    | some x => (unescape? cs).map (x :: ·)
  | '\\' :: 'U' :: a :: b :: c :: d :: e :: f :: g :: h :: cs =>
    match coded? 8 [a, b, c, d, e, f, g, h] with
    | none => none
    | some x => (unescape? cs).map (x :: ·)
  | '\\' :: c :: cs =>
    if c = '"' then (unescape? cs).map ('"' :: ·)
    else if c = '\\' then (unescape? cs).map ('\\' :: ·)
    else if c = 'b' then (unescape? cs).map ('\x08' :: ·)
    else if c = 'f' then (unescape? cs).map ('\x0c' :: ·)
    else if c = 'n' then (unescape? cs).map ('\n' :: ·)
    else if c = 'r' then (unescape? cs).map ('\r' :: ·)
    else if c = 't' then (unescape? cs).map ('\t' :: ·)
    else none
  | c :: cs =>
    if c = '\\' ∨ c = '\x7f' ∨ (c.toNat < 32 ∧ c ≠ '\t') then none else (unescape? cs).map (c :: ·)

def string? : List Char → Option (String × List Char)
  | '"' :: cs =>
    match quotedPart cs with
    | (inner, '"' :: rest) => (unescape? inner).map fun s => (String.ofList s, rest)
    | _ => none
  | _ => none

/-- The text after a name in a dictionary, which is quoted or a run of letters, digits, `_` and `-`. -/
def afterName? (cs : List Char) : Option (List Char) :=
  match cs with
  | '"' :: _ => (string? cs).map Prod.snd
  | _ => if (cs.takeWhile isNameChar).isEmpty then none else some (cs.dropWhile isNameChar)

/-- The text after the name of an entry and its equals sign. -/
def afterKey? (cs : List Char) : Option (List Char) :=
  match (afterName? (skipBlank cs)).map skipBlank with
  | some ('=' :: rest) => some (skipBlank rest)
  | _ => none

mutual

/-- A value at the front of a text, and the text after the blanks that follow it. -/
def read : Nat → List Char → Option (EnvValue × List Char)
  | 0, _ => none
  | fuel + 1, cs =>
    match skipBlank cs with
    | 't' :: 'r' :: 'u' :: 'e' :: rest => some (.boolean true, skipBlank rest)
    | 'f' :: 'a' :: 'l' :: 's' :: 'e' :: rest => some (.boolean false, skipBlank rest)
    | '{' :: rest => (readEntries true fuel rest).map fun rest => (.compound, skipBlank rest)
    | '[' :: rest => (readEntries false fuel rest).map fun rest => (.compound, skipBlank rest)
    | '"' :: rest => (string? ('"' :: rest)).map fun r => (.text r.1, skipBlank r.2)
    | '\'' :: rest =>
      match rest with
      | _ :: '\'' :: rest => some (.compound, skipBlank rest)
      | _ => none
    | cs =>
      let plain := cs.takeWhile fun c => !isSeparator c
      some (ofPlain (Text.trimChars plain), cs.dropWhile fun c => !isSeparator c)

/-- The text after the closing bracket of a list, or of a dictionary when the entries have `keys`. -/
def readEntries (keys : Bool) : Nat → List Char → Option (List Char)
  | 0, _ => none
  | fuel + 1, cs =>
    match cs with
    | [] => none
    | c :: rest => if c = (if keys then '}' else ']') then some rest else readEntry keys fuel (c :: rest)

/-- The text after the closing bracket, from an entry on. -/
def readEntry (keys : Bool) : Nat → List Char → Option (List Char)
  | 0, _ => none
  | fuel + 1, cs =>
    match (if keys then afterKey? cs else some cs) with
    | none => none
    | some cs =>
      match read fuel cs with
      | none => none
      | some (_, rest) =>
        match rest with
        | [] => none
        | c :: rest =>
          if c = ',' then readEntries keys fuel rest
          else if c = (if keys then '}' else ']') then some rest
          else none

end

def parse (raw : String) : EnvValue :=
  match read (3 * raw.toList.length + 3) raw.toList with
  | some (v, []) => v
  | _ => .text raw

end EnvValue

end Parley.Config

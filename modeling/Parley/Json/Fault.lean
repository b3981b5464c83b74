/-!
# What can be wrong with a JSON text, and where

A `Fault` names its cause and the text that was left where it was noticed, so that no reader has to count lines.
`Fault.message` adds line and column: lines count from 1, columns are the bytes since the last line feed.
-/

namespace Parley.Json

inductive Cause
  | endInValue | endInArray | endInObject | endInString
  | expectedColon | expectedItemEnd | expectedMemberEnd
  | expectedKeyword | expectedValue
  | badEscape | badNumber | numberTooLarge
  | controlCharacter | nameNotString | loneSurrogate | surrogateWithoutSecond
  | trailingComma | trailingText | tooDeep
  /-- The text is well formed, but not what the reader of these data can take. -/
  | mismatch (what : String)
  deriving DecidableEq, Repr

def Cause.message : Cause → String
  | endInValue => "EOF while parsing a value"
  | endInArray => "EOF while parsing a list"
  | endInObject => "EOF while parsing an object"
  | endInString => "EOF while parsing a string"
  | expectedColon => "expected `:`"
  | expectedItemEnd => "expected `,` or `]`"
  | expectedMemberEnd => "expected `,` or `\x7d`"
  | expectedKeyword => "expected ident"
  | expectedValue => "expected value"
  | badEscape => "invalid escape"
  | badNumber => "invalid number"
  | numberTooLarge => "number out of range"
  | controlCharacter => "control character (\\u0000-\\u001F) found while parsing a string"
  | nameNotString => "key must be a string"
  | loneSurrogate => "lone leading surrogate in hex escape"
  | surrogateWithoutSecond => "unexpected end of hex escape"
  | trailingComma => "trailing comma"
  | trailingText => "trailing characters"
  | tooDeep => "recursion limit exceeded"
  | mismatch what => what

/-- A cause, the text left at the place where reading stopped, and how many bytes beyond it were looked at. -/
structure Fault where
  cause : Cause
  rest : List Char
  beyond : Nat
  deriving DecidableEq, Repr

/-- A line from 1 and a number of bytes in it. -/
structure Position where
  line : Nat
  column : Nat
  deriving DecidableEq, Repr

namespace Position

def start : Position := ⟨1, 0⟩

def advance (p : Position) (c : Char) : Position :=
  if c = '\n' then ⟨p.line + 1, 0⟩ else ⟨p.line, p.column + c.utf8Size⟩

/-- The position some bytes further on, which may be inside a character but not past the end. -/
def advanceBytes (p : Position) : List Char → Nat → Position
  | [], _ => p
  | _ :: _, 0 => p
  | c :: cs, n + 1 =>
    if c.utf8Size ≤ n + 1 then advanceBytes (p.advance c) cs (n + 1 - c.utf8Size)
    else ⟨p.line, p.column + (n + 1)⟩

end Position

namespace Fault

def atEnd (cause : Cause) : Fault := ⟨cause, [], 0⟩

def ofNext (cause : Cause) (rest : List Char) : Fault := ⟨cause, rest, 1⟩

def before (cause : Cause) (rest : List Char) : Fault := ⟨cause, rest, 0⟩

def position (f : Fault) (whole : List Char) : Position :=
  let read := whole.take (whole.length - f.rest.length)
  (read.foldl Position.advance .start).advanceBytes f.rest f.beyond

def message (f : Fault) (whole : List Char) : String :=
  let p := f.position whole
  s!"{f.cause.message} at line {p.line} column {p.column}"

end Fault

end Parley.Json

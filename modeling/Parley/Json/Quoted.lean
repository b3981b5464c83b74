import Parley.Json.Fault
import Parley.Text.Hex

/-!
# Strings in JSON

`encode` writes a string between quotes: a quote, a backslash and the control characters are escaped, everything else
stands for itself. `decode` reads the text after an opening quote up to the closing one.
-/

namespace Parley.Json.Quoted
open Text (Hex.lowerDigit Hex.digit?)

/-- What stands for one character between the quotes. -/
def escape (c : Char) : List Char :=
  if c = '"' then ['\\', '"']
  else if c = '\\' then ['\\', '\\']
  else if c = '\x08' then ['\\', 'b']
  else if c = '\x0c' then ['\\', 'f']
  else if c = '\n' then ['\\', 'n']
  else if c = '\r' then ['\\', 'r']
  else if c = '\t' then ['\\', 't']
  else if c.toNat < 32 then ['\\', 'u', '0', '0', Hex.lowerDigit (c.toNat / 16), Hex.lowerDigit c.toNat]
  else [c]

def encode (s : String) : List Char :=
  '"' :: (s.toList.flatMap escape ++ ['"'])

/-- The character that a backslash and this character stand for. -/
def unescape? (c : Char) : Option Char :=
  if c = '"' then some '"'
  else if c = '\\' then some '\\'
  else if c = '/' then some '/'
  else if c = 'b' then some '\x08'
  else if c = 'f' then some '\x0c'
  else if c = 'n' then some '\n'
  else if c = 'r' then some '\r'
  else if c = 't' then some '\t'
  else none

/-- Four hexadecimal digits as a number. -/
def unit? (a b c d : Char) : Option Nat :=
  match Hex.digit? a, Hex.digit? b, Hex.digit? c, Hex.digit? d with
  | some a, some b, some c, some d => some (((a * 16 + b) * 16 + c) * 16 + d)
  | _, _, _, _ => none

/-- The fault of an escape whose four digits do not follow. -/
def badUnit (rest : List Char) : Fault :=
  if 4 ≤ (String.ofList rest).utf8ByteSize then ⟨.badEscape, rest, 4⟩ else .atEnd .endInString

/-- The first half of a surrogate pair. -/
def isHigh (n : Nat) : Bool := 0xD800 ≤ n && n ≤ 0xDBFF

/-- The second half of a surrogate pair. -/
def isLow (n : Nat) : Bool := 0xDC00 ≤ n && n ≤ 0xDFFF

def paired (high low : Nat) : Char :=
  Char.ofNat (0x10000 + (high - 0xD800) * 0x400 + (low - 0xDC00))

/-- Puts one more character in front of what a reader found. -/
def cons (c : Char) : Except Fault (List Char × List Char) → Except Fault (List Char × List Char)
  | .ok (s, rest) => .ok (c :: s, rest)
  | .error f => .error f

/-- The characters up to the closing quote, and the text after it. -/
def decode : List Char → Except Fault (List Char × List Char)
  | [] => .error (.atEnd .endInString)
  | c :: rest =>
    if c = '"' then .ok ([], rest)
    else if c = '\\' then
      match rest with
      | [] => .error (.atEnd .endInString)
      | e :: rest =>
        match unescape? e with
        | some x => cons x (decode rest)
        | none =>
          if e = 'u' then
            match rest with
            | h₁ :: h₂ :: h₃ :: h₄ :: rest' =>
              match unit? h₁ h₂ h₃ h₄ with
              | none => .error (badUnit (h₁ :: h₂ :: h₃ :: h₄ :: rest'))
              | some n =>
                if isLow n then .error (.before .loneSurrogate rest')
                else if isHigh n then
                  -- the second half has to follow at once
                  match rest' with
                  | [] => .error (.atEnd .endInString)
                  | b :: rest' =>
                    if b ≠ '\\' then .error (.ofNext .surrogateWithoutSecond (b :: rest'))
                    else
                      match rest' with
                      | [] => .error (.atEnd .endInString)
                      | u :: rest' =>
                        if u ≠ 'u' then .error (.ofNext .surrogateWithoutSecond (u :: rest'))
                        else
                          match rest' with
                          | l₁ :: l₂ :: l₃ :: l₄ :: rest'' =>
                            match unit? l₁ l₂ l₃ l₄ with
                            | none => .error (badUnit (l₁ :: l₂ :: l₃ :: l₄ :: rest''))
                            | some m =>
                              if isLow m then cons (paired n m) (decode rest'')
                              else .error (.before .loneSurrogate rest'')
                          | few => .error (badUnit few)
                else cons (Char.ofNat n) (decode rest')
            | few => .error (badUnit few)
          else .error (.ofNext .badEscape (e :: rest))
    else if c.toNat < 32 then .error (.ofNext .controlCharacter (c :: rest))
    else cons c (decode rest)

/-- The text after the closing quote, for a string whose characters are not wanted. -/
def skip : List Char → Except Fault (List Char)
  | [] => .error (.atEnd .endInString)
  | c :: rest =>
    if c = '"' then .ok rest
    else if c = '\\' then
      match rest with
      | [] => .error (.atEnd .endInString)
      | e :: rest =>
        if (unescape? e).isSome then skip rest
        else if e = 'u' then
          match rest with
          | h₁ :: h₂ :: h₃ :: h₄ :: rest' =>
            if (unit? h₁ h₂ h₃ h₄).isSome then skip rest'
            else .error (badUnit (h₁ :: h₂ :: h₃ :: h₄ :: rest'))
          | few => .error (badUnit few)
        else .error (.ofNext .badEscape (e :: rest))
    else if c.toNat < 32 then .error (.before .controlCharacter (c :: rest))
    else skip rest

end Parley.Json.Quoted

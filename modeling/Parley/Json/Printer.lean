import Parley.Json.Numeral
import Parley.Json.Quoted

/-!
# Compact JSON text

`Value.chars` writes a value without blanks. The members of an object come in the order in which the object holds them,
which is the order of their names.
-/

namespace Parley.Json

mutual

def Value.chars : Value → List Char
  | .null => "null".toList
  | .boolean true => "true".toList
  | .boolean false => "false".toList
  | .number n => Numeral.encode n
  | .text s => Quoted.encode s
  | .array items => '[' :: itemChars items ++ [']']
  | .object members => '{' :: memberChars members ++ ['}']

def itemChars : List Value → List Char
  | [] => []
  | [v] => v.chars
  | v :: vs => v.chars ++ ',' :: itemChars vs

def memberChars : List (String × Value) → List Char
  | [] => []
  | [(name, v)] => Quoted.encode name ++ ':' :: v.chars
  | (name, v) :: ms => Quoted.encode name ++ ':' :: v.chars ++ ',' :: memberChars ms

end

def Value.compact (v : Value) : String := String.ofList v.chars

end Parley.Json

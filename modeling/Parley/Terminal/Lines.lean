import Parley.Text.Utf8

/-!
# Lines of bytes

A line ends with a line feed, before which one carriage return counts for nothing; the last line may lack the line feed.
-/

namespace Parley.Terminal.Lines

def lineFeed : UInt8 := 10

/-- Cuts bytes after every line feed. -/
def split : List UInt8 → List (List UInt8)
  | [] => []
  | b :: bs =>
    if b = lineFeed then [b] :: split bs
    else
      match split bs with
      | [] => [[b]]
      | l :: ls => (b :: l) :: ls

def withoutEnd (cs : List Char) : List Char :=
  match cs.reverse with
  | '\n' :: '\r' :: rest | '\n' :: rest => rest.reverse
  | _ => cs

/-- The text of a line; nothing when its bytes are no text. -/
def text? (bytes : List UInt8) : Option String :=
  (Text.Utf8.decode? bytes).map fun cs => String.ofList (withoutEnd cs)

def ofBytes (bytes : List UInt8) : List (Option String) :=
  (split bytes).map text?

end Parley.Terminal.Lines

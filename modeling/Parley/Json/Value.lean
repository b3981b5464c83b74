import Parley.Decimal.Text

/-!
# JSON values

* `Json.Number` : a whole number, or a double;
* `Json.Value` : the six kinds of value; the members of an object stand in the order of their names, one for a name;
* `Members.insert` : puts a member at its place, where it takes the place of an earlier one of its name.
-/

namespace Parley.Json

inductive Number
  | integer (n : Int)
  | float (x : Binary64)
  deriving DecidableEq, Repr

inductive Value
  | null
  | boolean (b : Bool)
  | number (n : Number)
  | text (s : String)
  | array (items : List Value)
  | object (members : List (String × Value))
  deriving Repr, BEq, Inhabited

/-- The members of an object. -/
abbrev Members := List (String × Value)

namespace Members

/-- The members with `value` under `name`, in the order of names. -/
def insert (name : String) (value : Value) : Members → Members
  | [] => [(name, value)]
  | m :: ms =>
    if name < m.1 then (name, value) :: m :: ms
    else if name = m.1 then (name, value) :: ms
    else m :: insert name value ms

/-- The members of a list of pairs; of two pairs with one name the later counts. -/
def ofPairs (pairs : List (String × Value)) : Members :=
  pairs.foldl (fun ms p => insert p.1 p.2 ms) []

def find? (ms : Members) (name : String) : Option Value :=
  ms.lookup name

end Members

namespace Value

/-- The member of an object under a name; nothing for any other kind of value. -/
def member? (name : String) : Value → Option Value
  | object members => Members.find? members name
  | _ => none

def text? : Value → Option String
  | text s => some s
  | _ => none

def ofInt (n : Int) : Value := number (.integer n)

end Value

end Parley.Json

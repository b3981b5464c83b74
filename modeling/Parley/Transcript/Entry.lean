import Parley.Exchange.Tracker

/-!
# Entries of a transcript
-/

namespace Parley.Transcript

inductive Role
  | user | bot | spacer
  deriving DecidableEq, Repr

/-- What a surface shows for an entry. -/
inductive Body
  /-- Shown as it is, never read as markup. -/
  | text (content : String)
  /-- HTML made from an agent's reply. -/
  | markup (content : String)
  | empty
  deriving DecidableEq, Repr

def Body.content : Body → String
  | text content | markup content => content
  | empty => ""

/-- Entries are numbered from 1 in the order in which they are added. -/
structure Entry where
  id : Nat
  role : Role
  body : Body
  exchange : Option Exchange.Id
  deriving DecidableEq, Repr

end Parley.Transcript

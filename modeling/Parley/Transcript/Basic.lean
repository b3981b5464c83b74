import Parley.Transcript.Scroll

/-!
# The transcript

Entries are only ever added at the end, and each is rendered when it is added. An operation answers with the transcript
afterwards and the calls made on its surface, in order.
-/

namespace Parley

/-- The entries so far, the scroll requests, and the surface they are shown on. -/
structure Transcript where
  entries : List Transcript.Entry := []
  scroll : Transcript.Scroll := {}
  view : Transcript.View := {}
  deriving DecidableEq, Repr

namespace Transcript

def nextId (t : Transcript) : Nat := t.entries.length + 1

def push (t : Transcript) (role : Role) (body : Body) (exchange : Option Exchange.Id) : Transcript × List ViewCall :=
  let entry : Entry := ⟨t.nextId, role, body, exchange⟩
  ({ t with entries := t.entries ++ [entry], view := t.view.apply (.render entry) }, [.render entry])

def userText (label text : String) : String := s!"{label}: {text}"

def appendUser (t : Transcript) (label text : String) (exchange : Option Exchange.Id) : Transcript × List ViewCall :=
  t.push .user (.text (userText label text)) exchange

def appendBot (t : Transcript) (markup : String) (exchange : Option Exchange.Id) : Transcript × List ViewCall :=
  t.push .bot (.markup markup) exchange

def appendSpacer (t : Transcript) (exchange : Option Exchange.Id) : Transcript × List ViewCall :=
  t.push .spacer .empty exchange

def scrollToBottom (t : Transcript) : Transcript × List ViewCall :=
  match t.scroll.request.apply t.view.metrics with
  | (none, scroll) => ({ t with scroll }, [])
  | (some offset, scroll) => ({ t with scroll, view := t.view.apply (.scrollTo offset) }, [.scrollTo offset])

def last? (t : Transcript) : Option Entry := t.entries.getLast?

end Transcript

end Parley

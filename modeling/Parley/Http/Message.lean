import Parley.Http.Basic
import Parley.Text.Hex
import Parley.Text.Pieces

/-!
# HTTP messages as bytes

* `Message.ofPost` : a request as it goes over a connection, which the service closes after its answer;
* `Message.reaction?` : what the bytes that came back so far amount to; nothing while more of them are needed.

The body of an answer comes in chunks, or has the length that is announced, or ends with the connection
(`Message.Framing`).
-/

namespace Parley.Http.Message

def line (s : String) : String := s ++ "\x0d\x0a"

def ofPost (url : Url) (p : Post) : List UInt8 :=
  let body := Text.Utf8.encode p.body.toList
  let address := ((url.authority.map Url.Authority.address).getD "")
  let head := String.join (([s!"{p.method} {p.target} HTTP/1.1", s!"host: {address}", s!"content-type: {p.contentType}",
    "accept: */*", s!"content-length: {body.length}", "connection: close", ""]).map line)
  Text.Utf8.encode head.toList ++ body

/-- The first line of some bytes, without its end, and what follows it. -/
def cutLine? : List UInt8 → Option (List UInt8 × List UInt8)
  | [] => none
  | b :: bs =>
    if b = 10 then some ([], bs)
    else (cutLine? bs).map fun (l, rest) => (if b = 13 && l.isEmpty then l else b :: l, rest)

theorem length_lt_of_cutLine? {bs l rest : List UInt8} (h : cutLine? bs = some (l, rest)) : rest.length < bs.length := by
  induction bs generalizing l rest with
  | nil => simp [cutLine?] at h
  | cons b bs ih =>
    simp only [cutLine?] at h
    split at h
    · simp only [Option.some.injEq, Prod.mk.injEq] at h
      simp [← h.2]
    · obtain ⟨⟨l', rest'⟩, hc, he⟩ := Option.map_eq_some_iff.1 h
      simp only [Prod.mk.injEq] at he
      have := ih hc
      rw [← he.2, List.length_cons]
      omega

def latin (bs : List UInt8) : List Char := bs.map fun b => Char.ofNat b.toNat

/-- The lines before the first empty one, and what follows that. -/
def cutHead? (bs : List UInt8) : Option (List (List Char) × List UInt8) :=
  match h : cutLine? bs with
  | none => none
  | some ([], rest) => some ([], rest)
  | some (l, rest) =>
    have := length_lt_of_cutLine? h
    (cutHead? rest).map fun (ls, rest) => (latin l :: ls, rest)
termination_by bs.length

/-- The status of an answer and its fields, whose names are in lowercase. -/
structure Head where
  status : Nat
  fields : List (String × String)
  deriving DecidableEq, Repr

namespace Head

def number? (cs : List Char) : Option Nat := (String.ofList (Text.trimChars cs)).toNat?

def status? (cs : List Char) : Option Nat :=
  match Text.pieces ' ' cs with
  | version :: code :: _ => if "HTTP/1.".toList.isPrefixOf version then number? code else none
  | _ => none

/-- A field: a name, a colon, and a value. -/
def field (cs : List Char) : String × String :=
  (String.ofList ((cs.takeWhile (· != ':')).map Char.toLower),
    String.ofList (Text.trimChars ((cs.dropWhile (· != ':')).drop 1)))

def ofLines? : List (List Char) → Option Head
  | [] => none
  | first :: rest => (status? first).map fun status => ⟨status, rest.map field⟩

/-- The status only announces that the answer is yet to come. -/
def isInterim (h : Head) : Bool := 100 ≤ h.status && h.status ≤ 199 && h.status != 101

end Head

/-- How the end of a body is found. -/
inductive Framing
  | chunked
  | length (n : Nat)
  | toEnd
  deriving DecidableEq, Repr

/-- How the end of the body after a head is found. -/
def Head.framing (h : Head) : Framing :=
  match h.fields.lookup "transfer-encoding", (h.fields.lookup "content-length").bind fun v => number? v.toList with
  | some _, _ => .chunked
  | none, some n => .length n
  | none, none => .toEnd

def chunkSize? (l : List UInt8) : Option Nat :=
  match Text.trimChars ((latin l).takeWhile (· != ';')) with
  | [] => none
  | digits => Text.Hex.value? digits

/-- The chunks of a body put together, and whether the last one is there. -/
def unchunk (bs : List UInt8) : List UInt8 × Bool :=
  match h : cutLine? bs with
  | none => ([], false)
  | some (l, rest) =>
    match chunkSize? l with
    | none => ([], false)
    | some 0 => ([], true)
    | some n =>
      if rest.length < n then (rest, false)
      else
        have := length_lt_of_cutLine? h
        have : ((rest.drop n).drop 2).length < bs.length := by simp only [List.length_drop]; omega
        let (body, whole) := unchunk ((rest.drop n).drop 2)
        (rest.take n ++ body, whole)
termination_by bs.length

/-- The body that these bytes hold so far, and how many bytes of it are missing at least. -/
def Framing.body (bs : List UInt8) : Framing → List UInt8 × Nat
  | chunked =>
    let (body, whole) := unchunk bs
    (body, if whole then 0 else 1)
  | length n => (bs.take n, n - bs.length)
  | toEnd => (bs, 0)

/-- The body is whole, and no other bytes will belong to it. -/
def Framing.isWhole (f : Framing) (bs : List UInt8) : Bool := f != .toEnd && (f.body bs).2 = 0

/-- What bytes amount to: nothing while more are needed, unless the connection has `ended`. -/
def reaction? (ended : Bool) (bs : List UInt8) : Option Reaction :=
  match cutHead? bs with
  | none => if ended then some .dropped else none
  | some (lines, rest) =>
    match Head.ofLines? lines with
    | none => some .dropped
    | some head =>
      if h : head.isInterim = true ∧ rest.length < bs.length then
        have := h.2
        reaction? ended rest
      else
        let (body, missing) := head.framing.body rest
        let response : Response := ⟨head.status, body, missing⟩
        if ended || response.isBodiless || head.framing.isWhole rest then some (.answered response) else none
termination_by bs.length

end Parley.Http.Message

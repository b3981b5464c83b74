/-!
# Text from bytes

`decode` reads bytes as UTF-8. Each longest run of bytes that starts a character without completing it stands for
nothing; `decodeLossy` puts U+FFFD there, `decode?` refuses the whole.
-/

namespace Parley.Text.Utf8

/-- What a first byte says about the bytes after it. -/
structure Lead where
  /-- The bits it contributes. -/
  bits : Nat
  /-- How many bytes follow. -/
  count : Nat
  /-- The range of the byte after it. -/
  low : Nat
  high : Nat
  deriving DecidableEq, Repr

/-- The first byte of a character of several bytes. -/
def lead? (b : Nat) : Option Lead :=
  if 0xC2 ≤ b ∧ b ≤ 0xDF then some ⟨b - 0xC0, 1, 0x80, 0xBF⟩
  else if b = 0xE0 then some ⟨0, 2, 0xA0, 0xBF⟩
  else if b = 0xED then some ⟨0xD, 2, 0x80, 0x9F⟩
  else if 0xE1 ≤ b ∧ b ≤ 0xEF then some ⟨b - 0xE0, 2, 0x80, 0xBF⟩
  else if b = 0xF0 then some ⟨0, 3, 0x90, 0xBF⟩
  else if 0xF1 ≤ b ∧ b ≤ 0xF3 then some ⟨b - 0xF0, 3, 0x80, 0xBF⟩
  else if b = 0xF4 then some ⟨4, 3, 0x80, 0x8F⟩
  else none

/-- Takes the bytes that complete a character; stops before the first one that does not. -/
def complete (bits : Nat) : Nat → Nat → Nat → List UInt8 → Option Nat × List UInt8
  | 0, _, _, bs => (some bits, bs)
  | _ + 1, _, _, [] => (none, [])
  | n + 1, low, high, b :: bs =>
    if low ≤ b.toNat ∧ b.toNat ≤ high then complete (bits * 64 + (b.toNat - 0x80)) n 0x80 0xBF bs
    else (none, b :: bs)

theorem complete_length (n : Nat) : ∀ (bits low high : Nat) (bs : List UInt8),
    (complete bits n low high bs).2.length ≤ bs.length := by
  induction n with
  | zero => intro bits low high bs; simp [complete]
  | succ n ih =>
    intro bits low high bs
    cases bs with
    | nil => simp [complete]
    | cons b bs =>
      simp only [complete]
      split
      · exact Nat.le_succ_of_le (ih _ _ _ bs)
      · simp

/-- The character at the front of the bytes, if there is one, and the bytes after it. -/
def next (b : UInt8) (bs : List UInt8) : Option Char × List UInt8 :=
  if b.toNat < 0x80 then (some (Char.ofNat b.toNat), bs)
  else
    match lead? b.toNat with
    | none => (none, bs)
    | some l =>
      let (code, rest) := complete l.bits l.count l.low l.high bs
      (code.map Char.ofNat, rest)

theorem next_length (b : UInt8) (bs : List UInt8) : (next b bs).2.length ≤ bs.length := by
  unfold next
  split
  · exact Nat.le_refl _
  · split
    · exact Nat.le_refl _
    · exact complete_length _ _ _ _ bs

/-- The characters of the bytes; nothing where bytes make no character. -/
def decode : List UInt8 → List (Option Char)
  | [] => []
  | b :: bs => (next b bs).1 :: decode (next b bs).2
termination_by bs => bs.length
decreasing_by exact Nat.lt_succ_of_le (next_length b bs)

/-- The text with U+FFFD for what is no character. -/
def decodeLossy (bs : List UInt8) : List Char :=
  (decode bs).map fun c => c.getD '\uFFFD'

/-- The text, if all bytes belong to characters. -/
def decode? (bs : List UInt8) : Option (List Char) :=
  (decode bs).mapM id

def encode (cs : List Char) : List UInt8 :=
  cs.flatMap String.utf8EncodeChar

end Parley.Text.Utf8

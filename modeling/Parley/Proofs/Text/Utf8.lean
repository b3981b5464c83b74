import Mathlib.Tactic.SplitIfs
import Parley.Text.Utf8

/-!
# The bytes of a text are read as that text

* `lead?_two`, `lead?_three`, `lead?_four` : what the first byte of a character says; the second one lies in its range;
* `decode_encodeChar` : one character; `decode?_encode` : whole texts;
* `encodeChar_of_lt`, `encodeChar_of_le`, `encode_of_ascii` : ASCII characters are bytes, and no other has one below 128.
-/

namespace Parley.Text.Utf8

/-- A byte that contributes six bits to a character. -/
def trail (k : Nat) : UInt8 := UInt8.ofNat (k % 64 + 0x80)

theorem toNat_trail (k : Nat) : (trail k).toNat = k % 64 + 0x80 := by
  unfold trail
  rw [UInt8.toNat_ofNat']
  omega

theorem complete_trail {low high k : Nat} (hlow : low ≤ k % 64 + 0x80) (hhigh : k % 64 + 0x80 ≤ high) (bits n : Nat)
    (bs : List UInt8) :
    complete bits (n + 1) low high (trail k :: bs) = complete (bits * 64 + k % 64) n 0x80 0xBF bs := by
  rw [complete, toNat_trail, if_pos ⟨hlow, hhigh⟩, Nat.add_sub_cancel]

/-- After the second byte of a character any others may come. -/
theorem complete_trail_any (bits n k : Nat) (bs : List UInt8) :
    complete bits (n + 1) 0x80 0xBF (trail k :: bs) = complete (bits * 64 + k % 64) n 0x80 0xBF bs :=
  complete_trail (by omega) (by omega) bits n bs

theorem next_of_lead {b : UInt8} {l : Lead} (h : lead? b.toNat = some l) (bs : List UInt8) :
    next b bs =
      ((complete l.bits l.count l.low l.high bs).1.map Char.ofNat, (complete l.bits l.count l.low l.high bs).2) := by
  have hb : ¬ b.toNat < 0x80 := by
    intro hb
    rw [lead?, if_neg (by omega), if_neg (by omega), if_neg (by omega), if_neg (by omega), if_neg (by omega),
      if_neg (by omega), if_neg (by omega)] at h
    exact nomatch h
  rw [next, if_neg hb, h]

theorem lead?_two {a : Nat} (hlow : 2 ≤ a) (hhigh : a < 32) : lead? (a + 0xC0) = some ⟨a, 1, 0x80, 0xBF⟩ := by
  rw [lead?, if_pos (by omega), Nat.add_sub_cancel]

/-- Of three bytes, the second one neither makes a shorter character nor a surrogate. -/
theorem lead?_three {a k : Nat} (ha : a < 16) (hk : k < 64) (hlow : 32 ≤ a * 64 + k)
    (hsurrogate : a * 64 + k < 864 ∨ 895 < a * 64 + k) :
    ∃ low high, lead? (a + 0xE0) = some ⟨a, 2, low, high⟩ ∧ low ≤ k + 0x80 ∧ k + 0x80 ≤ high := by
  unfold lead?
  rw [if_neg (by omega)]
  split_ifs with hzero hsurr hrest
  · obtain rfl : a = 0 := by omega
    exact ⟨_, _, rfl, by omega, by omega⟩
  · obtain rfl : a = 13 := by omega
    exact ⟨_, _, rfl, by omega, by omega⟩
  · rw [Nat.add_sub_cancel]
    exact ⟨_, _, rfl, by omega, by omega⟩
  all_goals omega

/-- Of four bytes, the second one neither makes a shorter character nor one beyond the last. -/
theorem lead?_four {a k : Nat} (hk : k < 64) (hlow : 16 ≤ a * 64 + k) (hhigh : a * 64 + k < 272) :
    ∃ low high, lead? (a + 0xF0) = some ⟨a, 3, low, high⟩ ∧ low ≤ k + 0x80 ∧ k + 0x80 ≤ high := by
  unfold lead?
  rw [if_neg (by omega), if_neg (by omega), if_neg (by omega), if_neg (by omega)]
  split_ifs with hzero hrest hlast
  · obtain rfl : a = 0 := by omega
    exact ⟨_, _, rfl, by omega, by omega⟩
  · rw [Nat.add_sub_cancel]
    exact ⟨_, _, rfl, by omega, by omega⟩
  · obtain rfl : a = 4 := by omega
    exact ⟨_, _, rfl, by omega, by omega⟩
  · omega

/-- What stands for a character is read as that character. -/
theorem next_encodeChar (c : Char) (rest : List UInt8) :
    ∃ b bs, String.utf8EncodeChar c = b :: bs ∧ next b (bs ++ rest) = (some c, rest) := by
  have hvalid : c.toNat < 0xD800 ∨ 0xDFFF < c.toNat ∧ c.toNat < 0x110000 := c.valid
  have hchar : Char.ofNat c.toNat = c := Char.ofNat_toNat c
  have htoNat : c.val.toNat = c.toNat := rfl
  unfold String.utf8EncodeChar
  dsimp only
  rw [htoNat]
  generalize c.toNat = v at hvalid hchar
  -- by the number of its bytes; each time the bits come together to `v` again
  split_ifs with hone htwo hthree
  · have hb : (UInt8.ofNat v).toNat = v := by rw [UInt8.toNat_ofNat']; omega
    refine ⟨_, _, rfl, ?_⟩
    rw [next, hb, if_pos (by omega), hchar]
    rfl
  · have hb : (UInt8.ofNat (v / 64 % 32 + 0xC0)).toNat = v / 64 + 0xC0 := by rw [UInt8.toNat_ofNat']; omega
    have hlead := lead?_two (a := v / 64) (by omega) (by omega)
    have hv : v / 64 * 64 + v % 64 = v := by omega
    refine ⟨_, [trail v], rfl, ?_⟩
    rw [next_of_lead (hb ▸ hlead)]
    dsimp only
    rw [List.singleton_append, complete_trail_any, hv, complete, Option.map_some, hchar]
  · have hb : (UInt8.ofNat (v / 4096 % 16 + 0xE0)).toNat = v / 4096 + 0xE0 := by rw [UInt8.toNat_ofNat']; omega
    obtain ⟨low, high, hlead, hlow, hhigh⟩ :=
      lead?_three (a := v / 4096) (k := v / 64 % 64) (by omega) (by omega) (by omega) (by omega)
    have hv : (v / 4096 * 64 + v / 64 % 64) * 64 + v % 64 = v := by omega
    refine ⟨_, [trail (v / 64), trail v], rfl, ?_⟩
    rw [next_of_lead (hb ▸ hlead)]
    dsimp only
    rw [List.cons_append, List.singleton_append, complete_trail hlow hhigh, complete_trail_any, hv, complete,
      Option.map_some, hchar]
  · have hb : (UInt8.ofNat (v / 262144 % 8 + 0xF0)).toNat = v / 262144 + 0xF0 := by rw [UInt8.toNat_ofNat']; omega
    obtain ⟨low, high, hlead, hlow, hhigh⟩ :=
      lead?_four (a := v / 262144) (k := v / 4096 % 64) (by omega) (by omega) (by omega)
    have hv : ((v / 262144 * 64 + v / 4096 % 64) * 64 + v / 64 % 64) * 64 + v % 64 = v := by omega
    refine ⟨_, [trail (v / 4096), trail (v / 64), trail v], rfl, ?_⟩
    rw [next_of_lead (hb ▸ hlead)]
    dsimp only
    rw [List.cons_append, List.cons_append, List.singleton_append, complete_trail hlow hhigh, complete_trail_any,
      complete_trail_any, hv, complete, Option.map_some, hchar]

theorem decode_encodeChar (c : Char) (rest : List UInt8) :
    decode (String.utf8EncodeChar c ++ rest) = some c :: decode rest := by
  obtain ⟨b, bs, hbytes, hnext⟩ := next_encodeChar c rest
  rw [hbytes, List.cons_append, decode, hnext]

theorem decode_encode (cs : List Char) : decode (encode cs) = cs.map some := by
  induction cs with
  | nil => exact decode.eq_1
  | cons c cs ih =>
    have hcons : encode (c :: cs) = String.utf8EncodeChar c ++ encode cs := List.flatMap_cons
    rw [hcons, decode_encodeChar, ih]
    rfl

theorem decode?_encode (cs : List Char) : decode? (encode cs) = some cs := by
  unfold decode?
  rw [decode_encode]
  induction cs with
  | nil => rfl
  | cons c cs ih =>
    rw [List.map_cons, List.mapM_cons, ih]
    rfl

/-! ## ASCII -/

theorem encodeChar_of_lt {c : Char} (h : c.toNat < 128) : String.utf8EncodeChar c = [UInt8.ofNat c.toNat] :=
  if_pos (Nat.le_of_lt_succ h)

theorem encodeChar_of_le {c : Char} (h : 128 ≤ c.toNat) :
    ∃ b bs, String.utf8EncodeChar c = b :: bs ∧ 128 ≤ b.toNat := by
  have htoNat : c.val.toNat = c.toNat := rfl
  unfold String.utf8EncodeChar
  dsimp only
  rw [htoNat, if_neg (by omega)]
  split_ifs
  all_goals
    refine ⟨_, _, rfl, ?_⟩
    rw [UInt8.toNat_ofNat']
    omega

theorem encode_of_ascii {cs : List Char} (h : ∀ c ∈ cs, c.toNat < 128) :
    encode cs = cs.map fun c => UInt8.ofNat c.toNat := by
  induction cs with
  | nil => rfl
  | cons c cs ih =>
    have hcons : encode (c :: cs) = String.utf8EncodeChar c ++ encode cs := List.flatMap_cons
    rw [hcons, encodeChar_of_lt (h c List.mem_cons_self), ih fun d hd => h d (List.mem_cons_of_mem c hd)]
    rfl

end Parley.Text.Utf8

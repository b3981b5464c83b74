import Mathlib.Tactic.SplitIfs
import Parley.Json.Quoted

/-!
# Strings are read as they were written

* `decode_escape` : one character; `decode_escaped` : all of them, up to the closing quote.
-/

namespace Parley

theorem Text.Hex.digit?_lowerDigit (n : Nat) : digit? (lowerDigit n) = some (n % 16) := by
  have h : ∀ d < 16, digit? (if d < 10 then Char.ofNat (48 + d) else Char.ofNat (87 + d)) = some d := by decide
  exact h (n % 16) (Nat.mod_lt n (by decide))

namespace Json.Quoted

open Text (Hex.digit?_lowerDigit)

theorem unit?_control {c : Char} (h : c.toNat < 32) :
    unit? '0' '0' (Text.Hex.lowerDigit (c.toNat / 16)) (Text.Hex.lowerDigit c.toNat) = some c.toNat := by
  have hzero : Text.Hex.digit? '0' = some 0 := by decide
  unfold unit?
  rw [hzero, Hex.digit?_lowerDigit, Hex.digit?_lowerDigit]
  simp only [Option.some.injEq]
  omega

/-- A backslash and a character that goes with it stand for one character. -/
theorem decode_backslash {e x : Char} (h : unescape? e = some x) (rest : List Char) :
    decode ('\\' :: e :: rest) = cons x (decode rest) := by
  rw [decode.eq_def]
  dsimp only
  rw [if_neg (by decide), if_pos rfl, h]

theorem decode_control {c : Char} (h : c.toNat < 32) (rest : List Char) :
    decode ('\\' :: 'u' :: '0' :: '0' :: Text.Hex.lowerDigit (c.toNat / 16) :: Text.Hex.lowerDigit c.toNat :: rest) =
      cons c (decode rest) := by
  have hu : unescape? 'u' = none := by decide
  have hlow : isLow c.toNat = false := by simp [isLow]; omega
  have hhigh : isHigh c.toNat = false := by simp [isHigh]; omega
  rw [decode.eq_def]
  dsimp only
  rw [if_neg (by decide), if_pos rfl, hu]
  dsimp only
  rw [if_pos rfl, unit?_control h]
  dsimp only
  rw [hlow, hhigh, Char.ofNat_toNat]
  rfl

/-- A character that is not escaped stands for itself. -/
theorem decode_plain {c : Char} (quote : c ≠ '"') (backslash : c ≠ '\\') (control : ¬ c.toNat < 32)
    (rest : List Char) : decode (c :: rest) = cons c (decode rest) := by
  rw [decode.eq_def]
  dsimp only
  rw [if_neg quote, if_neg backslash, if_neg control]

/-- What stands for a character is read as that character. -/
theorem decode_escape (c : Char) (rest : List Char) : decode (escape c ++ rest) = cons c (decode rest) := by
  unfold escape
  split_ifs with quote backslash backspace formFeed newline return' tab control
  -- seven characters are written as a backslash and another one
  any_goals
    subst c
    exact decode_backslash rfl rest
  · exact decode_control control rest
  · exact decode_plain quote backslash control rest

/-- What is written up to the closing quote is read as it was. -/
theorem decode_escaped (cs rest : List Char) : decode (cs.flatMap escape ++ '"' :: rest) = .ok (cs, rest) := by
  induction cs with
  | nil =>
    rw [List.flatMap_nil, List.nil_append, decode.eq_def]
    exact if_pos rfl
  | cons c cs ih =>
    rw [List.flatMap_cons, List.append_assoc, decode_escape, ih]
    rfl

end Json.Quoted

end Parley

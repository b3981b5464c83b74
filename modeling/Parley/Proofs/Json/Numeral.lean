import Mathlib.Algebra.Group.Int.Defs
import Parley.Proofs.Json.Reading

/-!
# Whole numbers are read as they were written

* `absorb_toDigits` : the digits of a number, as many as follow the first one;
* `decode_toDigits` : a number after its sign, up to what may follow a value;
* `reads_integer` : whole numbers of 64 bits, with a sign or without.
-/

namespace Parley.Json

namespace Numeral

theorem digit?_digitChar {d : Nat} (h : d < 10) : digit? (Nat.digitChar d) = some d := by
  have hall : ∀ d < 10, digit? (Nat.digitChar d) = some d := by decide
  exact hall d h

/-- The first digit of a positive number is not zero, and those after it make the number. -/
theorem absorb_toDigits {n : Nat} (pos : 0 < n) (le : n ≤ limit) :
    ∃ c cs d, Nat.toDigits 10 n = c :: cs ∧ digit? c = some d ∧ d ≠ 0 ∧
      ∀ k rest, absorb d k (cs ++ rest) = absorb n (k + cs.length) rest := by
  induction n using Nat.strongRecOn with
  | ind n ih =>
    rw [Nat.toDigits_eq_if (by decide)]
    by_cases hn : n < 10
    · rw [if_pos hn]
      exact ⟨_, [], n, rfl, digit?_digitChar hn, by omega, fun k rest => rfl⟩
    · obtain ⟨c, cs, d, hdigits, hc, hd, htenth⟩ := ih (n / 10) (by omega) (by omega) (by omega)
      rw [if_neg hn, hdigits]
      refine ⟨c, cs ++ [Nat.digitChar (n % 10)], d, rfl, hc, hd, fun k rest => ?_⟩
      have hlast : n / 10 * 10 + n % 10 = n := by omega
      rw [List.append_assoc, htenth, List.singleton_append, absorb, digit?_digitChar (Nat.mod_lt n (by decide))]
      dsimp only
      rw [hlast, if_pos le, List.length_append, Nat.add_assoc]
      rfl

theorem absorb_stop {rest : List Char} (h : startsWithDigit rest = false) (n k : Nat) :
    absorb n k rest = (n, k, rest) := by
  cases rest with
  | nil => rfl
  | cons c rest =>
    have hc : digit? c = none := Option.isNone_iff_eq_none.mp (Option.isSome_eq_false_iff.mp h)
    rw [absorb, hc]

end Numeral

/-! ## Writing -/

namespace Value

theorem chars_ofNat (n : Nat) : (number (.integer (.ofNat n))).chars = Nat.toDigits 10 n :=
  Nat.toList_repr

theorem chars_negSucc (n : Nat) : (number (.integer (.negSucc n))).chars = '-' :: Nat.toDigits 10 (n + 1) := by
  show ("-" ++ Nat.repr (n + 1)).toList = _
  rw [String.toList_append, Nat.toList_repr]
  rfl

end Value

/-! ## Reading -/

namespace Reader

open Numeral (digit? isDigit startsWithDigit)

theorem Follows.startsWithDigit {rest : List Char} (h : Follows rest) : startsWithDigit rest = false := by
  cases rest with
  | nil => rfl
  | cons c rest => obtain rfl | rfl | rfl := h c rfl <;> rfl

/-- What may follow a value is neither a point nor an exponent. -/
theorem Follows.afterWhole {rest : List Char} (h : Follows rest) (negative : Bool) (n : Nat) :
    Numeral.afterWhole negative n 0 rest =
      if negative then
        if n = 0 ∨ 0x8000000000000000 < n then Numeral.finish true n 0 rest else .ok (.integer (-Int.ofNat n), rest)
      else .ok (.integer n, rest) := by
  cases rest with
  | nil => rfl
  | cons c rest => obtain rfl | rfl | rfl := h c rfl <;> rfl

theorem Follows.decode_toDigits {rest : List Char} (h : Follows rest) {n : Nat} (pos : 0 < n) (le : n ≤ Numeral.limit)
    (negative : Bool) :
    Numeral.decode negative (Nat.toDigits 10 n ++ rest) = Numeral.afterWhole negative n 0 rest := by
  obtain ⟨c, cs, d, hdigits, hc, hd, habsorb⟩ := Numeral.absorb_toDigits pos le
  have hstop := h.startsWithDigit
  have hno : rest.takeWhile isDigit = [] ∧ rest.dropWhile isDigit = rest := by
    cases rest with
    | nil => exact ⟨rfl, rfl⟩
    | cons x rest =>
      have hx : isDigit x = false := hstop
      exact ⟨List.takeWhile_cons_of_neg (by simp [hx]), List.dropWhile_cons_of_neg (by simp [hx])⟩
  rw [hdigits, List.cons_append, Numeral.decode, hc]
  split
  · next heq => exact absurd heq (by simp)
  · next heq => exact absurd (Option.some.inj heq) hd
  · next d' _ heq =>
    obtain rfl := Option.some.inj heq
    rw [habsorb, Numeral.absorb_stop hstop]
    dsimp only
    rw [hno.1, hno.2]
    rfl

theorem ne_of_isDigit {c x : Char} (h : isDigit c = true) (hx : isDigit x = false) : c ≠ x := by
  rintro rfl
  exact absurd h (by simp [hx])

theorem isBlank_of_isDigit {c : Char} (h : isDigit c = true) : isBlank c = false := by
  have hne : ∀ x, isDigit x = false → c ≠ x := fun x => ne_of_isDigit h
  simp [isBlank, hne ' ' rfl, hne '\n' rfl, hne '\t' rfl, hne '\r' rfl]

theorem node_digit {c : Char} (h : isDigit c = true) (item : Option (List Char → Result Value)) (rest : List Char) :
    node item (c :: rest) = (Numeral.decode false (c :: rest)).map fun r => (.number r.1, r.2) := by
  have hne : ∀ x, isDigit x = false → c ≠ x := fun x => ne_of_isDigit h
  rw [node, skipBlank_cons (isBlank_of_isDigit h)]
  dsimp only
  rw [if_neg (hne '"' rfl), if_neg (hne '[' rfl), if_neg (hne '{' rfl), if_neg (hne 'n' rfl), if_neg (hne 't' rfl),
    if_neg (hne 'f' rfl), if_neg (hne '-' rfl), if_pos h]

theorem node_minus (item : Option (List Char → Result Value)) (rest : List Char) :
    node item ('-' :: rest) = (Numeral.decode true rest).map fun r => (.number r.1, r.2) := by
  rw [node, skipBlank_cons (by decide)]
  rfl

/-- A whole number of 64 bits, with a sign or without, is read as it was written. -/
theorem reads_integer (depth : Nat) {n : Int} (low : -2 ^ 63 ≤ n) (high : n < 2 ^ 64) :
    Reads (value depth) (.number (.integer n)) := by
  intro rest hrest
  have hnode : ∀ item, node item ((Value.number (.integer n)).chars ++ rest) = .ok (.number (.integer n), rest) := by
    intro item
    cases n with
    | ofNat m =>
      rw [Value.chars_ofNat]
      rcases Nat.eq_zero_or_pos m with rfl | hm
      · have hdecode : Numeral.decode false ('0' :: rest) = Numeral.afterWhole false 0 0 rest := by
          have hdigit : digit? '0' = some 0 := rfl
          rw [Numeral.decode, hdigit]
          dsimp only
          rw [hrest.startsWithDigit]
          rfl
        have hzero : Nat.toDigits 10 0 ++ rest = '0' :: rest := rfl
        rw [hzero, node_digit rfl, hdecode, hrest.afterWhole]
        rfl
      · have hhigh : (m : Int) < 2 ^ 64 := high
        have hle : m ≤ Numeral.limit := by
          rw [Numeral.limit]
          omega
        obtain ⟨c, cs, d, hdigits, hc, -⟩ := Numeral.absorb_toDigits hm hle
        have hdecode := hrest.decode_toDigits hm hle false
        rw [hdigits, List.cons_append] at hdecode ⊢
        rw [node_digit (Option.isSome_of_eq_some hc), hdecode, hrest.afterWhole]
        rfl
    | negSucc m =>
      rw [Value.chars_negSucc, List.cons_append, node_minus,
        hrest.decode_toDigits (Nat.succ_pos m) (by rw [Numeral.limit]; omega), hrest.afterWhole, if_pos rfl,
        if_neg (by omega)]
      rfl
  cases depth <;> exact hnode _

end Reader

end Parley.Json

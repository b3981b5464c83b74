import Parley.Text.Hex

/-!
# Hexadecimal digits stand for numbers

* `isLowerDigit_iff` : the lowercase digits are those of the numbers below sixteen;
* `lowerDigit_cons_lt`, `ofByte_append_lt` : texts that start with digits, or with bytes, are in the order of these
  numbers first;
* `ofByte_inj`, `exists_ofByte` : a byte is known from its two digits, and any two digits are those of a byte.
-/

namespace Parley.Text.Hex

theorem lowerDigit_of_lt {n : Nat} (h : n < 16) :
    lowerDigit n = if n < 10 then Char.ofNat (48 + n) else Char.ofNat (87 + n) := by
  rw [lowerDigit, Nat.mod_eq_of_lt h]

theorem lowerDigit_mod (n : Nat) : lowerDigit (n % 16) = lowerDigit n := by
  unfold lowerDigit
  rw [Nat.mod_mod]

theorem exists_lowerDigit {c : Char} (h : isLowerDigit c = true) : ∃ n < 16, lowerDigit n = c := by
  simp only [isLowerDigit, Bool.or_eq_true, Bool.and_eq_true, decide_eq_true_eq] at h
  obtain ⟨hlow, hhigh⟩ | ⟨hlow, hhigh⟩ := h
  · refine ⟨c.toNat - 48, by omega, ?_⟩
    rw [lowerDigit_of_lt (by omega), if_pos (by omega), Nat.add_sub_cancel' hlow, Char.ofNat_toNat]
  · refine ⟨c.toNat - 87, by omega, ?_⟩
    rw [lowerDigit_of_lt (by omega), if_neg (by omega), Nat.add_sub_cancel' (by omega), Char.ofNat_toNat]

theorem isLowerDigit_iff {c : Char} : isLowerDigit c = true ↔ c ∈ "0123456789abcdef".toList := by
  constructor
  · intro h
    obtain ⟨n, hn, rfl⟩ := exists_lowerDigit h
    have hall : ∀ n < 16, lowerDigit n ∈ "0123456789abcdef".toList := by decide
    exact hall n hn
  · exact List.all_eq_true.mp (by decide) c

theorem lowerDigit_lt_iff (m n : Nat) : lowerDigit m < lowerDigit n ↔ m % 16 < n % 16 := by
  have hall : ∀ m < 16, ∀ n < 16, (lowerDigit m < lowerDigit n ↔ m < n) := by decide
  rw [← lowerDigit_mod m, ← lowerDigit_mod n]
  exact hall (m % 16) (Nat.mod_lt m (by decide)) (n % 16) (Nat.mod_lt n (by decide))

theorem lowerDigit_inj {m n : Nat} : lowerDigit m = lowerDigit n ↔ m % 16 = n % 16 := by
  constructor
  · intro h
    have hlt := lowerDigit_lt_iff m n
    have hgt := lowerDigit_lt_iff n m
    rw [h] at hlt hgt
    have hirrefl : ¬ lowerDigit n < lowerDigit n := Nat.lt_irrefl _
    rw [iff_false_left hirrefl] at hlt hgt
    omega
  · intro h
    rw [← lowerDigit_mod m, h, lowerDigit_mod]

theorem lowerDigit_cons_lt (m n : Nat) (xs ys : List Char) :
    lowerDigit m :: xs < lowerDigit n :: ys ↔ m % 16 < n % 16 ∨ m % 16 = n % 16 ∧ xs < ys := by
  rw [List.cons_lt_cons_iff, lowerDigit_lt_iff, lowerDigit_inj]

theorem ofByte_append_lt (a b : UInt8) (xs ys : List Char) :
    ofByte a ++ xs < ofByte b ++ ys ↔ a.toNat < b.toNat ∨ a.toNat = b.toNat ∧ xs < ys := by
  have ha := a.toNat_lt
  have hb := b.toNat_lt
  simp only [ofByte, List.cons_append, List.nil_append, lowerDigit_cons_lt]
  by_cases h : xs < ys
  · simp only [h, and_true]
    omega
  · simp only [h, and_false, or_false]
    omega

theorem ofByte_inj {a b : UInt8} : ofByte a = ofByte b ↔ a = b := by
  have ha := a.toNat_lt
  have hb := b.toNat_lt
  rw [← UInt8.toNat_inj]
  simp only [ofByte, List.cons.injEq, and_true, lowerDigit_inj]
  omega

theorem ofByte_append_inj {a b : UInt8} {xs ys : List Char} : ofByte a ++ xs = ofByte b ++ ys ↔ a = b ∧ xs = ys := by
  have hlength : (ofByte a).length = (ofByte b).length := rfl
  rw [List.append_eq_append_iff_of_size_eq_left hlength, ofByte_inj]

theorem exists_ofByte {x y : Char} (hx : isLowerDigit x = true) (hy : isLowerDigit y = true) :
    ∃ b, ofByte b = [x, y] := by
  obtain ⟨m, hm, rfl⟩ := exists_lowerDigit hx
  obtain ⟨n, hn, rfl⟩ := exists_lowerDigit hy
  have hbyte : (UInt8.ofNat (m * 16 + n)).toNat = m * 16 + n := by
    rw [UInt8.toNat_ofNat']
    omega
  refine ⟨UInt8.ofNat (m * 16 + n), ?_⟩
  simp only [ofByte, hbyte, List.cons.injEq, and_true, lowerDigit_inj]
  omega

end Parley.Text.Hex

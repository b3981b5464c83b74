import Mathlib.Algebra.Group.Nat.Defs
import Mathlib.Data.List.Basic
import Mathlib.Data.Set.Function
import Parley.Proofs.Text.Hex
import Parley.Proofs.Text.Utf8
import Parley.Session.Identity

/-!
# The written form of an id

* `Grouped`, `isCanonicalChars_iff_grouped` : four groups of four digits joined by hyphens are the canonical texts, and
  `exists_format` says that they are the written forms of eight bytes;
* `isCanonicalBytes` : the test by bytes, which is the same (`isCanonical_eq_bytes`);
* `written`, `number`, `written_lt` : groups are in the order of the numbers they stand for, hence `format_lt`;
* `exists_ofUuid` : every id can be drawn;
* `canonical_octets` : all of this.
-/

namespace Parley.Session

open Text (pieces pieces_eq_splitOn)
open Text.Hex (isLowerDigit isLowerDigit_iff ofByte ofByte_inj ofByte_append_inj ofByte_append_lt exists_ofByte)

/-! ## Groups -/

/-- Four characters of `0`–`9` and `a`–`f`. -/
structure IsGroup (g : List Char) : Prop where
  length : g.length = 4
  digits : ∀ c ∈ g, c ∈ "0123456789abcdef".toList

/-- Four groups joined by single hyphens. -/
def Grouped (cs : List Char) : Prop :=
  ∃ groups : List (List Char), groups.length = 4 ∧ (∀ g ∈ groups, IsGroup g) ∧ cs = ['-'].intercalate groups

theorem isHexGroup_iff {g : List Char} : isHexGroup g = true ↔ IsGroup g := by
  simp only [isHexGroup, Bool.and_eq_true, beq_iff_eq, List.all_eq_true, isLowerDigit_iff]
  constructor
  · rintro ⟨hlength, hdigits⟩
    exact ⟨hlength, hdigits⟩
  · rintro ⟨hlength, hdigits⟩
    exact ⟨hlength, hdigits⟩

theorem IsGroup.no_hyphen {g : List Char} (h : IsGroup g) : '-' ∉ g := fun hmem =>
  absurd (h.digits _ hmem) (by decide)

theorem isCanonicalChars_iff_grouped {cs : List Char} : isCanonicalChars cs = true ↔ Grouped cs := by
  simp only [isCanonicalChars, Bool.and_eq_true, beq_iff_eq, List.all_eq_true, isHexGroup_iff, pieces_eq_splitOn]
  constructor
  · rintro ⟨hlength, hgroups⟩
    exact ⟨_, hlength, hgroups, (List.intercalate_splitOn '-').symm⟩
  · rintro ⟨groups, hlength, hgroups, rfl⟩
    have hne : groups ≠ [] := fun h => by simp [h] at hlength
    rw [List.splitOn_intercalate '-' (fun g hg => (hgroups g hg).no_hyphen) hne]
    exact ⟨hlength, hgroups⟩

theorem IsGroup.exists_group {g : List Char} (h : IsGroup g) : ∃ a b, Octets.group a b = g := by
  obtain ⟨hlength, hdigits⟩ := h
  obtain ⟨w, x, y, z, rfl⟩ := List.length_eq_four.mp hlength
  have hlower : ∀ c ∈ [w, x, y, z], isLowerDigit c = true := fun c hc => isLowerDigit_iff.mpr (hdigits c hc)
  obtain ⟨a, ha⟩ := exists_ofByte (hlower w (by simp)) (hlower x (by simp))
  obtain ⟨b, hb⟩ := exists_ofByte (hlower y (by simp)) (hlower z (by simp))
  exact ⟨a, b, by rw [Octets.group, ha, hb]; rfl⟩

namespace Octets

variable {v w : Octets}

theorem toList_eq (v : Octets) :
    v.toList = [v.get 0, v.get 1, v.get 2, v.get 3, v.get 4, v.get 5, v.get 6, v.get 7] := by
  refine List.ext_getElem (by simp) fun i hi _ => ?_
  have hi : i < 8 := by simpa using hi
  obtain rfl | rfl | rfl | rfl | rfl | rfl | rfl | rfl :
      i = 0 ∨ i = 1 ∨ i = 2 ∨ i = 3 ∨ i = 4 ∨ i = 5 ∨ i = 6 ∨ i = 7 := by omega
  all_goals rfl

theorem format_eq (v : Octets) :
    v.format = group (v.get 0) (v.get 1) ++ '-' :: (group (v.get 2) (v.get 3) ++
      '-' :: (group (v.get 4) (v.get 5) ++ '-' :: group (v.get 6) (v.get 7))) :=
  rfl

/-- The bytes are written in order, two in a group, with a hyphen before every group but the first. -/
theorem format_eq_intercalate (v : Octets) :
    v.format = ['-'].intercalate ((v.toList.toChunks 2).map fun g => g.flatMap ofByte) := by
  rw [toList_eq]
  simp [format_eq, group, List.toChunks, List.toChunks.go, List.intercalate_cons_cons]

theorem exists_format {cs : List Char} (h : Grouped cs) : ∃ v : Octets, v.format = cs := by
  obtain ⟨groups, hlength, hgroups, rfl⟩ := h
  obtain ⟨g₁, g₂, g₃, g₄, rfl⟩ := List.length_eq_four.mp hlength
  obtain ⟨a, b, rfl⟩ := (hgroups g₁ (by simp)).exists_group
  obtain ⟨c, d, rfl⟩ := (hgroups g₂ (by simp)).exists_group
  obtain ⟨e, f, rfl⟩ := (hgroups g₃ (by simp)).exists_group
  obtain ⟨i, j, rfl⟩ := (hgroups g₄ (by simp)).exists_group
  refine ⟨#v[a, b, c, d, e, f, i, j], ?_⟩
  simp [format, List.intercalate_cons_cons]

theorem isCanonicalChars_iff_format {cs : List Char} : isCanonicalChars cs = true ↔ ∃ v : Octets, v.format = cs := by
  constructor
  · exact fun h => exists_format (isCanonicalChars_iff_grouped.mp h)
  · rintro ⟨v, rfl⟩
    exact isCanonicalChars_format v

/-- Eight bytes are known from their written form. -/
theorem format_injective : Function.Injective format := by
  intro v w h
  simp only [format_eq, group, List.append_assoc, ofByte_append_inj, List.cons.injEq, true_and, ofByte_inj] at h
  obtain ⟨h₀, h₁, h₂, h₃, h₄, h₅, h₆, h₇⟩ := h
  rw [← Vector.toList_inj, toList_eq, toList_eq, h₀, h₁, h₂, h₃, h₄, h₅, h₆, h₇]

/-! ## Order -/

def written (gs : List (UInt8 × UInt8)) : List Char := gs.flatMap fun g => '-' :: group g.1 g.2

def number : List (UInt8 × UInt8) → Nat
  | [] => 0
  | g :: gs => (g.1.toNat * 256 + g.2.toNat) * 65536 ^ gs.length + number gs

theorem number_lt (gs : List (UInt8 × UInt8)) : number gs < 65536 ^ gs.length := by
  induction gs with
  | nil => exact Nat.one_pos
  | cons g gs ih =>
    have hfirst := g.1.toNat_lt
    have hsecond := g.2.toNat_lt
    calc number (g :: gs) < (g.1.toNat * 256 + g.2.toNat) * 65536 ^ gs.length + 65536 ^ gs.length :=
          Nat.add_lt_add_left ih _
      _ = (g.1.toNat * 256 + g.2.toNat + 1) * 65536 ^ gs.length := by rw [Nat.add_mul _ 1, Nat.one_mul]
      _ ≤ 65536 * 65536 ^ gs.length := Nat.mul_le_mul_right _ (by omega)
      _ = 65536 ^ (gs.length + 1) := by rw [Nat.pow_succ']

/-- Numbers of two digits, to a base above the second ones, are in the order of their first digits first. -/
theorem mul_add_lt_iff {a b m n base : Nat} (hm : m < base) (hn : n < base) :
    a * base + m < b * base + n ↔ a < b ∨ a = b ∧ m < n := by
  constructor
  · intro h
    have hle : a ≤ b := by
      by_contra hgt
      have hmul : (b + 1) * base ≤ a * base := Nat.mul_le_mul_right base (by omega)
      rw [Nat.add_mul, Nat.one_mul] at hmul
      omega
    rcases Nat.lt_or_eq_of_le hle with hlt | rfl
    · exact .inl hlt
    · exact .inr ⟨rfl, Nat.lt_of_add_lt_add_left h⟩
  · rintro (h | ⟨rfl, h⟩)
    · have hmul : (a + 1) * base ≤ b * base := Nat.mul_le_mul_right base h
      rw [Nat.add_mul, Nat.one_mul] at hmul
      omega
    · exact Nat.add_lt_add_left h _

theorem group_append_lt (a b c d : UInt8) (xs ys : List Char) :
    group a b ++ xs < group c d ++ ys ↔
      a.toNat * 256 + b.toNat < c.toNat * 256 + d.toNat ∨
        a.toNat * 256 + b.toNat = c.toNat * 256 + d.toNat ∧ xs < ys := by
  have hb := b.toNat_lt
  have hd := d.toNat_lt
  simp only [group, List.append_assoc, ofByte_append_lt]
  by_cases h : xs < ys
  · simp only [h, and_true]
    omega
  · simp only [h, and_false, or_false]
    omega

/-- As many groups are in the order of their numbers. -/
theorem written_lt {gs hs : List (UInt8 × UInt8)} (h : gs.length = hs.length) :
    written gs < written hs ↔ number gs < number hs := by
  induction gs generalizing hs with
  | nil =>
    obtain rfl := List.length_eq_zero_iff.mp h.symm
    simp [written, number]
  | cons g gs ih =>
    obtain ⟨g', hs, rfl⟩ := List.exists_cons_of_length_eq_add_one h.symm
    have hlength : gs.length = hs.length := Nat.succ.inj h
    have hcons : ∀ (g : UInt8 × UInt8) gs, written (g :: gs) = '-' :: (group g.1 g.2 ++ written gs) := fun _ _ => rfl
    have hgs := number_lt gs
    rw [hlength] at hgs
    rw [hcons, hcons, List.cons_lt_cons_iff, group_append_lt, ih hlength, number, number, hlength,
      mul_add_lt_iff hgs (number_lt hs)]
    simp

def groups (v : Octets) : List (UInt8 × UInt8) :=
  [(v.get 0, v.get 1), (v.get 2, v.get 3), (v.get 4, v.get 5), (v.get 6, v.get 7)]

theorem written_groups (v : Octets) : written v.groups = '-' :: v.format := by
  simp [written, groups, format_eq]

theorem number_groups (v : Octets) : number v.groups = v.toNat := by
  rw [toNat, ← Vector.foldl_toList, toList_eq]
  simp only [number, groups, List.foldl_cons, List.foldl_nil, List.length_cons, List.length_nil]
  omega

/-- Eight bytes are in the order of their written forms. -/
theorem format_lt (v w : Octets) : v.format < w.format ↔ v.toNat < w.toNat := by
  have hlength : v.groups.length = w.groups.length := rfl
  have h := written_lt hlength
  rw [written_groups, written_groups, number_groups, number_groups, List.cons_lt_cons_iff] at h
  simpa using h

theorem toNat_injective : Function.Injective toNat := by
  intro v w h
  refine format_injective (List.le_antisymm ?_ ?_)
  · exact fun hlt => Nat.lt_irrefl _ (h ▸ (format_lt w v).mp hlt)
  · exact fun hlt => Nat.lt_irrefl _ (h ▸ (format_lt v w).mp hlt)

/-- The byte of a number at a place, counted from the last one. -/
def byteAt (n k : Nat) : UInt8 := UInt8.ofNat (n / 256 ^ k)

theorem exists_toNat {n : Nat} (h : n < 2 ^ 64) : ∃ v : Octets, v.toNat = n := by
  have hnumber : number [(byteAt n 7, byteAt n 6), (byteAt n 5, byteAt n 4), (byteAt n 3, byteAt n 2),
      (byteAt n 1, byteAt n 0)] = n := by
    simp [number, byteAt]
    omega
  refine ⟨#v[byteAt n 7, byteAt n 6, byteAt n 5, byteAt n 4, byteAt n 3, byteAt n 2, byteAt n 1, byteAt n 0], ?_⟩
  exact (number_groups _).symm.trans hnumber

theorem toNat_lt (v : Octets) : v.toNat < 2 ^ 64 := by
  have hpow : 65536 ^ v.groups.length = 2 ^ 64 := (by decide : 65536 ^ 4 = 2 ^ 64)
  rw [← number_groups, ← hpow]
  exact number_lt v.groups

end Octets

/-! ## The test by bytes -/

open Text (Utf8.encode)

/-- A byte `0`–`9` or `a`–`f`. -/
def isDigitByte (b : UInt8) : Bool := (48 ≤ b.toNat && b.toNat ≤ 57) || (97 ≤ b.toNat && b.toNat ≤ 102)

/-- Nineteen bytes, and between the hyphens four pieces of four bytes, all of them digits. -/
def isCanonicalBytes (raw : String) : Bool :=
  let groups := pieces '-' raw.toList
  (Utf8.encode raw.toList).length == 19 && groups.length == 4 &&
    groups.all fun g => (Utf8.encode g).length == 4 && (Utf8.encode g).all isDigitByte

theorem toNat_of_isLowerDigit {c : Char} (h : isLowerDigit c = true) : c.toNat < 128 := by
  simp only [isLowerDigit, Bool.or_eq_true, Bool.and_eq_true, decide_eq_true_eq] at h
  omega

theorem all_encodeChar (c : Char) : (String.utf8EncodeChar c).all isDigitByte = isLowerDigit c := by
  by_cases hc : c.toNat < 128
  · have htoNat : (UInt8.ofNat c.toNat).toNat = c.toNat := by
      rw [UInt8.toNat_ofNat']
      omega
    rw [Text.Utf8.encodeChar_of_lt hc, List.all_cons, List.all_nil, Bool.and_true, isDigitByte, htoNat, isLowerDigit]
  · obtain ⟨b, bs, hbytes, hb⟩ := Text.Utf8.encodeChar_of_le (Nat.le_of_not_lt hc)
    have hbyte : isDigitByte b = false := by simp [isDigitByte]; omega
    have hchar : isLowerDigit c = false := by simp [isLowerDigit]; omega
    rw [hbytes, List.all_cons, hbyte, hchar, Bool.false_and]

theorem all_encode (cs : List Char) : (Utf8.encode cs).all isDigitByte = cs.all isLowerDigit := by
  induction cs with
  | nil => rfl
  | cons c cs ih =>
    have hcons : Utf8.encode (c :: cs) = String.utf8EncodeChar c ++ Utf8.encode cs := List.flatMap_cons
    rw [hcons, List.all_append, all_encodeChar, ih, List.all_cons]

theorem length_encode {cs : List Char} (h : cs.all isLowerDigit = true) : (Utf8.encode cs).length = cs.length := by
  rw [Text.Utf8.encode_of_ascii fun c hc => toNat_of_isLowerDigit (List.all_eq_true.mp h c hc), List.length_map]

theorem isHexGroup_eq_bytes (g : List Char) :
    isHexGroup g = ((Utf8.encode g).length == 4 && (Utf8.encode g).all isDigitByte) := by
  rw [isHexGroup, all_encode]
  cases h : g.all isLowerDigit with
  | false => rw [Bool.and_false, Bool.and_false]
  | true => rw [length_encode h]

theorem Octets.length_encode_format (v : Octets) : (Utf8.encode v.format).length = 19 := by
  have hgroup : ∀ a b, (Utf8.encode (group a b)).length = 4 := fun a b => by
    have h := isHexGroup_group a b
    rw [isHexGroup_eq_bytes, Bool.and_eq_true, beq_iff_eq] at h
    exact h.1
  have hhyphen : ∀ cs, (Utf8.encode ('-' :: cs)).length = (Utf8.encode cs).length + 1 := fun _ => rfl
  have happend : ∀ cs ds, (Utf8.encode (cs ++ ds)).length = (Utf8.encode cs).length + (Utf8.encode ds).length :=
    fun cs ds => by rw [Utf8.encode, List.flatMap_append, List.length_append]; rfl
  simp only [format, happend, hgroup, hhyphen]

theorem isCanonical_eq_bytes (raw : String) : isCanonical raw = isCanonicalBytes raw := by
  have hchars : isCanonicalBytes raw = ((Utf8.encode raw.toList).length == 19 && isCanonicalChars raw.toList) := by
    simp only [isCanonicalBytes, isCanonicalChars, funext isHexGroup_eq_bytes, Bool.and_assoc]
  rw [hchars, isCanonical]
  cases h : isCanonicalChars raw.toList with
  | false => rw [Bool.and_false]
  | true =>
    obtain ⟨v, hv⟩ := Octets.isCanonicalChars_iff_format.mp h
    rw [← hv, v.length_encode_format]
    rfl

/-! ## Ids -/

theorem ofOctets_bijective : Function.Bijective SessionId.ofOctets := by
  constructor
  · intro v w h
    have htext : String.ofList v.format = String.ofList w.format := congrArg SessionId.text h
    exact Octets.format_injective (String.ofList_injective htext)
  · rintro ⟨text, canonical⟩
    obtain ⟨v, hv⟩ := Octets.isCanonicalChars_iff_format.mp canonical
    refine ⟨v, ?_⟩
    simp [SessionId.ofOctets, hv]

/-- A UUID of version 4: its version and its variant are fixed. -/
structure IsVersion4 (u : Vector UInt8 16) : Prop where
  version : u[6].toNat / 16 = 4
  variant : u[8].toNat / 64 = 2

theorem exists_ofUuid (id : SessionId) : ∃ u, IsVersion4 u ∧ SessionId.ofUuid u = id := by
  obtain ⟨v, rfl⟩ := ofOctets_bijective.2 id
  refine ⟨#v[v[0], v[1], v[2], v[3], v[4], v[5], 0x40, 0, 0x80, 0, v[6], v[7], 0, 0, 0, 0], ⟨by simp, by simp⟩, ?_⟩
  refine congrArg SessionId.ofOctets (Vector.toList_inj.mp ?_)
  rw [Octets.toList_eq v]
  rfl

theorem parseId_eq_ok_iff {raw : String} {id : SessionId} : parseId raw = .ok id ↔ id.text = raw := by
  unfold parseId SessionId.parse?
  constructor
  · intro h
    split at h
    · next hparse =>
      obtain rfl := Except.ok.inj h
      split at hparse
      · exact congrArg SessionId.text (Option.some.inj hparse).symm
      · exact nomatch hparse
    · exact nomatch h
  · rintro rfl
    rw [dif_pos id.canonical]

theorem text_lt_iff (v w : Octets) : (SessionId.ofOctets v).text < (SessionId.ofOctets w).text ↔ v.toNat < w.toNat := by
  rw [String.lt_iff, SessionId.ofOctets, SessionId.ofOctets, String.toList_ofList, String.toList_ofList,
    Octets.format_lt]

theorem le_iff (v w : Octets) : (SessionId.ofOctets v).le (SessionId.ofOctets w) = true ↔ v.toNat ≤ w.toNat := by
  rw [SessionId.le, decide_eq_true_iff, ← String.not_lt, text_lt_iff, Nat.not_lt]

structure Written : Prop where
  /-- Canonical are the texts of four groups, as a test of their bytes finds too. -/
  grouped : ∀ raw, isCanonical raw = true ↔ Grouped raw.toList
  bytes : ∀ raw, isCanonical raw = isCanonicalBytes raw
  /-- Two bytes make a group; different bytes have different texts, and these are the texts that are accepted. -/
  format : ∀ v : Octets, v.format = ['-'].intercalate ((v.toList.toChunks 2).map fun g => g.flatMap ofByte)
  injective : Function.Injective fun v : Octets => String.ofList v.format
  range : Set.range (fun v : Octets => String.ofList v.format) = {raw | ∃ id, parseId raw = .ok id}
  accepts : ∀ raw, isCanonical raw = true ↔ ∃ id, parseId raw = .ok id
  /-- Parsing keeps the text. -/
  text : ∀ raw id, parseId raw = .ok id ↔ SessionId.text id = raw
  ofOctets : Function.Bijective SessionId.ofOctets
  drawn : ∀ id, ∃ u, IsVersion4 u ∧ SessionId.ofUuid u = id
  /-- Eight bytes are a number of 64 bits, and ids are in the order of these numbers. -/
  number : Function.Injective Octets.toNat ∧ ∀ n, (∃ v : Octets, v.toNat = n) ↔ n < 2 ^ 64
  lt : ∀ v w, (SessionId.ofOctets v).text < (SessionId.ofOctets w).text ↔ v.toNat < w.toNat
  le : ∀ v w, (SessionId.ofOctets v).le (.ofOctets w) = true ↔ v.toNat ≤ w.toNat
  sort : ∀ vs : List Octets,
    SessionId.sort (vs.map SessionId.ofOctets) =
      (vs.mergeSort fun v w => v.toNat ≤ w.toNat).map SessionId.ofOctets

/-- Ids are the numbers of 64 bits, written in order. -/
theorem canonical_octets : Written where
  grouped raw := isCanonicalChars_iff_grouped
  bytes := isCanonical_eq_bytes
  format := Octets.format_eq_intercalate
  injective v w h := Octets.format_injective (String.ofList_injective h)
  range := by
    ext raw
    simp only [Set.mem_range, Set.mem_ofPred_eq, parseId_eq_ok_iff]
    constructor
    · rintro ⟨v, rfl⟩
      exact ⟨.ofOctets v, rfl⟩
    · rintro ⟨id, rfl⟩
      obtain ⟨v, rfl⟩ := ofOctets_bijective.2 id
      exact ⟨v, rfl⟩
  accepts raw := by
    simp only [parseId_eq_ok_iff]
    constructor
    · exact fun h => ⟨⟨raw, h⟩, rfl⟩
    · rintro ⟨id, rfl⟩
      exact id.canonical
  text raw id := parseId_eq_ok_iff
  ofOctets := ofOctets_bijective
  drawn := exists_ofUuid
  number := by
    refine ⟨Octets.toNat_injective, fun n => ⟨?_, Octets.exists_toNat⟩⟩
    rintro ⟨v, rfl⟩
    exact v.toNat_lt
  lt := text_lt_iff
  le := le_iff
  sort vs := by
    refine (List.map_mergeSort fun v _ w _ => ?_).symm
    rw [Bool.eq_iff_iff, le_iff, decide_eq_true_iff]

end Parley.Session

import Parley.Config.EnvValue
import Parley.Decimal.Whole
import Parley.Proofs.Text.Blank

/-!
# Truth values and whole numbers in variables

* `toDigits_digitsValue_iff` : the digits that are the digits of their value;
* `Spelling`, `scalarText?` : how truth values and whole numbers are spelled, and the text that they become;
* `Redundant`, `scalarText?_spelling` : a spelling is that text, unless it has a plus sign, a zero too many in front, or
  a minus sign at a zero;
* `read_plain`, `parse_plain` : values without quotes and brackets;
* `spelling_of_parse` : nothing else is read as a truth value or a whole number; `given_spelling` : and blanks around
  a spelling make no difference to what it gives.
-/

namespace Parley.Config

open Decimal (digitsValue isDigit)

/-! ## Digits -/

namespace EnvValue

theorem toNat_of_isDigit {c : Char} (h : isDigit c = true) : 48 ≤ c.toNat ∧ c.toNat ≤ 57 := by
  rw [isDigit, Bool.and_eq_true, decide_eq_true_eq, decide_eq_true_eq] at h
  exact h

theorem digitChar_of_isDigit {c : Char} (h : isDigit c = true) :
    c.toNat - 48 < 10 ∧ Nat.digitChar (c.toNat - 48) = c := by
  obtain ⟨hlow, hhigh⟩ := toNat_of_isDigit h
  have hlt : c.toNat - 48 < 10 := by omega
  refine ⟨hlt, Char.toNat_inj.mp ?_⟩
  rw [Nat.toNat_digitChar_of_lt_ten hlt]
  omega

theorem isBlank_of_isDigit {c : Char} (h : isDigit c = true) : Text.isBlank c = false := by
  obtain ⟨hlow, hhigh⟩ := toNat_of_isDigit h
  simp only [Text.isBlank, Bool.or_eq_false_iff, Bool.and_eq_false_iff, decide_eq_false_iff_not,
    beq_eq_false_iff_ne]
  omega

theorem toDigits_foldl {ds : List Char} (h : ∀ c ∈ ds, isDigit c = true) {acc : Nat} (pos : 0 < acc) :
    Nat.toDigits 10 (ds.foldl (fun acc c => acc * 10 + (c.toNat - 48)) acc) = Nat.toDigits 10 acc ++ ds := by
  induction ds generalizing acc with
  | nil => exact (List.append_nil _).symm
  | cons c ds ih =>
    obtain ⟨hlt, hchar⟩ := digitChar_of_isDigit (h c List.mem_cons_self)
    have hnext : Nat.toDigits 10 (acc * 10 + (c.toNat - 48)) = Nat.toDigits 10 acc ++ [c] := by
      rw [Nat.mul_comm, ← Nat.toDigits_append_toDigits (by decide) pos hlt, Nat.toDigits_of_lt_base hlt, hchar]
    rw [List.foldl_cons, ih (fun x hx => h x (List.mem_cons_of_mem _ hx)) (by omega), hnext, List.append_assoc]
    rfl

theorem head?_toDigits {n : Nat} (pos : 0 < n) : (Nat.toDigits 10 n).head? ≠ some '0' := by
  induction n using Nat.strongRecOn with
  | ind n ih =>
    rw [Nat.toDigits_eq_if (by decide)]
    split
    · next hn =>
      have hall : ∀ d < 10, 0 < d → Nat.digitChar d ≠ '0' := by decide
      exact fun h => hall n hn pos (Option.some.inj h)
    · next hn =>
      rw [List.head?_append_of_ne_nil _ Nat.toDigits_ne_nil]
      exact ih (n / 10) (by omega) (by omega)

/-- Only zeros in front make digits other than those of their value. -/
theorem toDigits_digitsValue_iff {ds : List Char} (h : ∀ c ∈ ds, isDigit c = true) (nonempty : ds ≠ []) :
    Nat.toDigits 10 (digitsValue ds) = ds ↔ ds = ['0'] ∨ ds.head? ≠ some '0' := by
  obtain ⟨d, ds, rfl⟩ := List.exists_cons_of_ne_nil nonempty
  obtain ⟨hlt, hchar⟩ := digitChar_of_isDigit (h d List.mem_cons_self)
  have hvalue : digitsValue (d :: ds) = ds.foldl (fun acc c => acc * 10 + (c.toNat - 48)) (d.toNat - 48) := by
    rw [digitsValue, List.foldl_cons, Nat.zero_mul, Nat.zero_add]
  by_cases hd : d = '0'
  · subst hd
    constructor
    · intro heq
      left
      have hhead : (Nat.toDigits 10 (digitsValue ('0' :: ds))).head? = some '0' := by rw [heq]; rfl
      have hzero : digitsValue ('0' :: ds) = 0 := by
        by_contra hne
        exact head?_toDigits (Nat.pos_of_ne_zero hne) hhead
      rw [hzero] at heq
      exact heq.symm
    · rintro (heq | hne)
      · rw [heq]
        decide
      · exact absurd rfl hne
  · refine ⟨fun _ => .inr fun hhead => hd (Option.some.inj hhead), fun _ => ?_⟩
    have hpos : 0 < d.toNat - 48 := by
      refine Nat.pos_of_ne_zero fun hzero => hd ?_
      rw [← hchar, hzero]
      rfl
    rw [hvalue, toDigits_foldl (fun c hc => h c (List.mem_cons_of_mem _ hc)) hpos, Nat.toDigits_of_lt_base hlt, hchar]
    rfl

/-! ## Spellings -/

inductive Sign : List Char → Bool → Prop
  | none : Sign [] false
  | plus : Sign ['+'] false
  | minus : Sign ['-'] true

/-- How truth values and whole numbers are spelled. -/
inductive Spelling : List Char → EnvValue → Prop
  | yes : Spelling "true".toList (.boolean true)
  | no : Spelling "false".toList (.boolean false)
  | whole {s ds : List Char} {negative : Bool} (sign : Sign s negative) (nonempty : ds ≠ [])
      (digits : ∀ c ∈ ds, isDigit c = true) (fits : inRange (Binary64.withSign negative (digitsValue ds)) = true) :
      Spelling (s ++ ds) (.integer (Binary64.withSign negative (digitsValue ds)))

/-- What a truth value or a whole number becomes as a text. -/
def scalarText? : EnvValue → Option String
  | boolean b => some (toString b)
  | integer n => some (toString n)
  | float _ | text _ | compound => none

/-- A spelling with more to it than the number needs. -/
inductive Redundant : List Char → Prop
  | plus (cs : List Char) : Redundant ('+' :: cs)
  | zeros {s : List Char} {negative : Bool} (sign : Sign s negative) (c : Char) (cs : List Char) :
      Redundant (s ++ '0' :: c :: cs)
  | minusZero : Redundant ['-', '0']

section Redundant
variable {ds : List Char} (digits : ∀ c ∈ ds, isDigit c = true) (nonempty : ds ≠ [])
include digits nonempty

theorem redundant_digits_iff : Redundant ds ↔ ¬(ds = ['0'] ∨ ds.head? ≠ some '0') := by
  constructor
  · intro h
    cases h with
    | plus cs => exact absurd (digits '+' List.mem_cons_self) (by decide)
    | minusZero => exact absurd (digits '-' List.mem_cons_self) (by decide)
    | zeros sign c cs =>
      cases sign with
      | none => simp
      | plus => exact absurd (digits '+' List.mem_cons_self) (by decide)
      | minus => exact absurd (digits '-' List.mem_cons_self) (by decide)
  · intro h
    rw [not_or, not_not] at h
    obtain ⟨d, ds, rfl⟩ := List.exists_cons_of_ne_nil nonempty
    obtain rfl := Option.some.inj h.2
    cases ds with
    | nil => exact absurd rfl h.1
    | cons c cs => exact .zeros .none c cs

theorem redundant_minus_iff : Redundant ('-' :: ds) ↔ ds.head? = some '0' := by
  constructor
  · intro h
    generalize hcs : '-' :: ds = cs at h
    cases h with
    | plus cs => exact nomatch hcs
    | minusZero =>
      obtain rfl := (List.cons.inj hcs).2
      rfl
    | zeros sign c cs =>
      cases sign with
      | none | plus => exact absurd (List.cons.inj hcs).1 (by decide)
      | minus =>
        obtain rfl := (List.cons.inj hcs).2
        rfl
  · intro h
    obtain ⟨d, ds, rfl⟩ := List.exists_cons_of_ne_nil nonempty
    obtain rfl := Option.some.inj h
    cases ds with
    | nil => exact .minusZero
    | cons c cs => exact .zeros .minus c cs

end Redundant

theorem head?_redundant {cs : List Char} (h : Redundant cs) : ∃ c ∈ cs.head?, c = '+' ∨ c = '-' ∨ c = '0' := by
  cases h with
  | plus => exact ⟨'+', rfl, .inl rfl⟩
  | minusZero => exact ⟨'-', rfl, .inr (.inl rfl)⟩
  | zeros sign c cs =>
    cases sign with
    | none => exact ⟨'0', rfl, .inr (.inr rfl)⟩
    | plus => exact ⟨'+', rfl, .inl rfl⟩
    | minus => exact ⟨'-', rfl, .inr (.inl rfl)⟩

theorem toList_toString_ofNat (n : Nat) : (toString (Int.ofNat n)).toList = Nat.toDigits 10 n := Nat.toList_repr

theorem toList_toString_neg {n : Nat} (pos : 0 < n) : (toString (-Int.ofNat n)).toList = '-' :: Nat.toDigits 10 n := by
  obtain ⟨k, rfl⟩ := Nat.exists_eq_add_of_lt pos
  show ("-" ++ Nat.repr (0 + k + 1)).toList = _
  rw [String.toList_append, Nat.toList_repr]
  rfl

theorem scalarText?_ne_empty {v : EnvValue} {x : String} (h : v.scalarText? = some x) : x ≠ "" := by
  rintro rfl
  cases v with
  | boolean b => cases b <;> exact absurd (Option.some.inj h) (by decide)
  | integer n =>
    have hnil : (toString n).toList = [] := congrArg String.toList (Option.some.inj h)
    cases n with
    | ofNat n => exact Nat.toDigits_ne_nil ((toList_toString_ofNat n).symm.trans hnil)
    | negSucc n => exact nomatch (toList_toString_neg (Nat.succ_pos n)).symm.trans hnil
  | float | text | compound => exact nomatch h

/-- What is spelled stays as it is, unless the spelling is redundant. -/
theorem scalarText?_spelling {t : String} {v : EnvValue} (h : Spelling t.toList v) :
    v.scalarText? = some t ↔ ¬Redundant t.toList := by
  have hsame : ∀ n : Int, (integer n).scalarText? = some t ↔ (toString n).toList = t.toList := by
    intro n
    rw [String.toList_inj]
    exact Option.some_inj
  generalize ht : t.toList = cs at h hsame
  have hword : ∀ w : String, (w.toList.head?.all fun c => c != '+' && c != '-' && c != '0') = true →
      ¬Redundant w.toList := by
    intro w hw hr
    obtain ⟨c, hc, hcases⟩ := head?_redundant hr
    rw [hc] at hw
    rcases hcases with rfl | rfl | rfl <;> exact absurd hw (by decide)
  cases h with
  | yes =>
    refine ⟨fun _ => hword "true" (by decide), fun _ => ?_⟩
    rw [String.toList_inj.mp ht]
    rfl
  | no =>
    refine ⟨fun _ => hword "false" (by decide), fun _ => ?_⟩
    rw [String.toList_inj.mp ht]
    rfl
  | @whole s ds negative sign nonempty digits fits =>
    have hdigits := toDigits_digitsValue_iff digits nonempty
    rw [hsame]
    cases sign with
    | none =>
      show (toString (Int.ofNat (digitsValue ds))).toList = ds ↔ ¬Redundant ds
      rw [toList_toString_ofNat, hdigits, redundant_digits_iff digits nonempty, not_not]
    | plus =>
      refine ⟨fun heq => ?_, fun h => absurd (.plus ds) h⟩
      have hplus : '+' ∈ Nat.toDigits 10 (digitsValue ds) := by
        rw [← toList_toString_ofNat]
        exact heq ▸ List.mem_cons_self
      have hdigit : Char.isDigit '+' = true := Nat.isDigit_of_mem_toDigits (b := 10) (by decide) (by decide) hplus
      exact absurd hdigit (by decide)
    | minus =>
      show (toString (-Int.ofNat (digitsValue ds))).toList = '-' :: ds ↔ ¬Redundant ('-' :: ds)
      rw [redundant_minus_iff digits nonempty]
      rcases Nat.eq_zero_or_pos (digitsValue ds) with hzero | hpos
      · -- the sign of a zero is lost
        rw [hzero] at hdigits ⊢
        refine ⟨fun heq => absurd (List.cons.inj heq).1 (by decide), fun hhead => ?_⟩
        rw [← hdigits.mpr (.inr hhead)] at hhead
        exact absurd rfl hhead
      · rw [toList_toString_neg hpos, List.cons_inj_right, hdigits]
        refine ⟨?_, .inr⟩
        rintro (rfl | hhead)
        · exact absurd hpos (by decide)
        · exact hhead

/-! ## Reading -/

/-- Neither a letter or a bracket nor a quote with which another kind of value starts. -/
def startsPlain (c : Char) : Bool := c != 't' && c != 'f' && c != '{' && c != '[' && c != '"' && c != '\''

/-- The characters with which another kind of value starts, and those that end plain text. -/
def marks : List Char := ['t', 'f', '{', '[', '"', '\'', ',', '}', ']']

theorem plain_of_marks {p : Char → Bool} (h : (marks.all fun x => !p x) = true) {c : Char} (hc : p c = true) :
    startsPlain c = true ∧ isSeparator c = false := by
  have hne : ∀ x ∈ marks, c ≠ x := by
    rintro x hx rfl
    have hx := List.all_eq_true.mp h c hx
    rw [hc] at hx
    exact absurd hx (by decide)
  simp only [marks, List.forall_mem_cons] at hne
  simp [startsPlain, isSeparator, hne]

/-- A value that starts like no other kind is plain text, a number or not. -/
theorem read_plain {cs : List Char} (h : ∀ c ∈ (skipBlank cs).head?, startsPlain c = true) (fuel : Nat) :
    read (fuel + 1) cs =
      some (ofPlain (Text.trimChars ((skipBlank cs).takeWhile fun c => !isSeparator c)),
        (skipBlank cs).dropWhile fun c => !isSeparator c) := by
  rw [read]
  generalize skipBlank cs = cs at h
  have hstart : ∀ c rest, cs = c :: rest → startsPlain c = false → False := by
    rintro c rest rfl hc
    exact absurd (h c rfl) (by simp [hc])
  split
  all_goals first
    | rfl
    | exact (hstart _ _ rfl rfl).elim

theorem isBlank_of_isBlank {c : Char} (h : isBlank c = true) : Text.isBlank c = true := by
  simp only [isBlank, Bool.or_eq_true, beq_iff_eq] at h
  rcases h with (((rfl | rfl) | rfl) | rfl) | rfl <;> decide

theorem skipBlank_eq_self {cs : List Char} (h : ∀ c ∈ cs.head?, Text.isBlank c = false) : skipBlank cs = cs := by
  cases cs with
  | nil => rfl
  | cons c cs =>
    refine List.dropWhile_cons_of_neg fun hb => ?_
    exact absurd (isBlank_of_isBlank hb) (Bool.eq_false_iff.mp (h c rfl))

theorem nil_of_skipBlank {cs rest : List Char} (h : ∀ c ∈ (cs ++ rest).getLast?, Text.isBlank c = false)
    (hrest : skipBlank rest = []) : rest = [] := by
  by_contra hne
  have hlast := List.getLast?_eq_some_getLast hne
  have hblank := List.dropWhile_eq_nil_iff.mp hrest _ (List.mem_of_getLast? hlast)
  refine absurd (isBlank_of_isBlank hblank) (Bool.eq_false_iff.mp (h _ ?_))
  rw [List.getLast?_append, hlast]
  rfl

theorem trimChars_skipBlank (cs : List Char) : Text.trimChars (skipBlank cs) = Text.trimChars cs := by
  have hdrop : (skipBlank cs).dropWhile Text.isBlank = cs.dropWhile Text.isBlank := by
    induction cs with
    | nil => rfl
    | cons c cs ih =>
      rw [skipBlank, List.dropWhile_cons]
      split
      · next hc => rw [List.dropWhile_cons_of_pos (isBlank_of_isBlank hc), ← ih, skipBlank]
      · rfl
  rw [Text.trimChars_eq, Text.trimChars_eq, hdrop]

theorem parse_plain {raw : String} (h : ∀ c ∈ (skipBlank raw.toList).head?, startsPlain c = true)
    (whole : ∀ c ∈ raw.toList, isSeparator c = false) : parse raw = ofPlain (Text.trimChars raw.toList) := by
  have hmem : ∀ c ∈ skipBlank raw.toList, (!isSeparator c) = true := fun c hc => by
    rw [whole c ((List.dropWhile_sublist _).subset hc)]
    rfl
  rw [parse, read_plain h, List.takeWhile_eq_self_iff.mpr hmem, List.dropWhile_eq_nil_iff.mpr hmem,
    trimChars_skipBlank]

/-! ### Whole numbers -/

theorem exists_sign (cs : List Char) : ∃ s, Sign s (Decimal.sign cs).1 ∧ cs = s ++ (Decimal.sign cs).2 := by
  unfold Decimal.sign
  split
  · exact ⟨_, .minus, rfl⟩
  · exact ⟨_, .plus, rfl⟩
  · exact ⟨_, .none, rfl⟩

theorem sign_digits {s ds : List Char} {negative : Bool} (h : Sign s negative) (digits : ∀ c ∈ ds, isDigit c = true) :
    Decimal.sign (s ++ ds) = (negative, ds) := by
  cases h with
  | plus | minus => rfl
  | none =>
    cases ds with
    | nil => rfl
    | cons d ds =>
      have hd := digits d List.mem_cons_self
      show Decimal.sign (d :: ds) = _
      unfold Decimal.sign
      split
      · next heq => exact absurd ((List.cons.inj heq).1 ▸ hd) (by decide)
      · next heq => exact absurd ((List.cons.inj heq).1 ▸ hd) (by decide)
      · rfl

/-- Exactly the spellings of whole numbers in the range are read as such. -/
theorem wholeNumber?_eq_some_iff {cs : List Char} {n : Int} :
    wholeNumber? cs = some n ↔ Spelling cs (.integer n) := by
  have hvalue : ∀ (negative : Bool) (ds : List Char), (∀ c ∈ ds, isDigit c = true) → ds ≠ [] →
      Decimal.sign cs = (negative, ds) → wholeNumber? cs =
        if inRange (Binary64.withSign negative (digitsValue ds)) then
          some (Binary64.withSign negative (digitsValue ds)) else none := by
    intro negative ds digits nonempty hsign
    have hcond : (ds.isEmpty || !ds.all isDigit) = false := by
      rw [List.all_eq_true.mpr digits, List.isEmpty_eq_false_iff.mpr nonempty]
      rfl
    rw [wholeNumber?, hsign]
    dsimp only
    rw [hcond]
    rfl
  constructor
  · intro h
    obtain ⟨s, hs, hcs⟩ := exists_sign cs
    generalize hsign : Decimal.sign cs = p at hs hcs
    obtain ⟨negative, ds⟩ := p
    have hcond : (ds.isEmpty || !ds.all isDigit) = false := by
      by_contra hc
      rw [wholeNumber?, hsign] at h
      dsimp only at h
      rw [if_pos ((Bool.eq_false_or_eq_true _).resolve_right hc)] at h
      exact nomatch h
    rw [Bool.or_eq_false_iff, List.isEmpty_eq_false_iff, Bool.not_eq_false', List.all_eq_true] at hcond
    rw [hvalue negative ds hcond.2 hcond.1 hsign] at h
    split at h
    · next hfits =>
      obtain rfl := Option.some.inj h
      rw [hcs]
      exact .whole hs hcond.1 hcond.2 hfits
    · exact nomatch h
  · intro h
    cases h with
    | @whole s ds negative sign nonempty digits fits =>
      rw [hvalue negative ds digits nonempty (sign_digits sign digits), if_pos fits]

/-! ### Spellings -/

theorem Spelling.mem {cs : List Char} {n : Int} (h : Spelling cs (.integer n)) {c : Char} (hc : c ∈ cs) :
    c = '+' ∨ c = '-' ∨ isDigit c = true := by
  cases h with
  | whole sign nonempty digits fits =>
    rcases List.mem_append.mp hc with hc | hc
    · cases sign with
      | none => exact absurd hc List.not_mem_nil
      | plus => exact .inl (List.mem_singleton.mp hc)
      | minus => exact .inr (.inl (List.mem_singleton.mp hc))
    · exact .inr (.inr (digits c hc))

/-- Nothing in a whole number starts another kind of value, ends plain text, is blank, or is a point. -/
theorem Spelling.plain {cs : List Char} {n : Int} (h : Spelling cs (.integer n)) {c : Char} (hc : c ∈ cs) :
    startsPlain c = true ∧ isSeparator c = false ∧ Text.isBlank c = false ∧ c ≠ '.' := by
  rcases h.mem hc with rfl | rfl | hd
  · decide
  · decide
  · obtain ⟨hstart, hsep⟩ := plain_of_marks (p := isDigit) (by decide) hd
    refine ⟨hstart, hsep, isBlank_of_isDigit hd, ?_⟩
    rintro rfl
    exact absurd hd (by decide)

theorem ofPlain_of_no_point {cs : List Char} (h : '.' ∉ cs) :
    ofPlain cs = match wholeNumber? cs with
      | some n => .integer n
      | none => .text (String.ofList cs) := by
  have hcontains : cs.contains '.' = false := by simpa using h
  rw [ofPlain, hcontains]
  cases wholeNumber? cs <;> rfl

theorem spelling_of_ofPlain {cs : List Char} {x : String} (h : (ofPlain cs).scalarText? = some x) :
    Spelling cs (ofPlain cs) := by
  unfold ofPlain at h ⊢
  split at h
  · exact nomatch h
  · next n _ hn => exact wholeNumber?_eq_some_iff.mp hn
  · exact nomatch h

/-- What is left of a text when it is trimmed stands between blanks. -/
theorem exists_blanks (cs : List Char) : ∃ w w', (∀ c ∈ w, Text.isBlank c = true) ∧
    (∀ c ∈ w', Text.isBlank c = true) ∧ cs = w ++ Text.trimChars cs ++ w' := by
  have hback : ∀ l : List Char, l = l.rdropWhile Text.isBlank ++ l.rtakeWhile Text.isBlank := fun l => by
    rw [List.rdropWhile, List.rtakeWhile, ← List.reverse_append, List.takeWhile_append_dropWhile, List.reverse_reverse]
  refine ⟨cs.takeWhile Text.isBlank, (cs.dropWhile Text.isBlank).rtakeWhile Text.isBlank, ?_, ?_, ?_⟩
  · exact fun c hc => List.mem_takeWhile_imp hc
  · exact fun c hc => List.mem_rtakeWhile_imp hc
  · rw [Text.trimChars_eq, List.append_assoc, ← hback, List.takeWhile_append_dropWhile]

theorem scalarText?_of_map {α : Type} {o : Option α} {f : α → EnvValue × List Char} {v : EnvValue} {rest : List Char}
    (hf : ∀ a, (f a).1.scalarText? = none) (h : o.map f = some (v, rest)) : v.scalarText? = none := by
  obtain ⟨a, -, ha⟩ := Option.map_eq_some_iff.mp h
  have hnone := hf a
  rwa [ha] at hnone

/-- Only what is spelled as a truth value or a whole number is read as one. -/
theorem spelling_of_parse {t x : String} (trimmed : Text.trimChars t.toList = t.toList)
    (h : (parse t).scalarText? = some x) : Spelling t.toList (parse t) := by
  obtain ⟨hfirst, hlast⟩ := (Text.trimChars_eq_self_iff _).mp trimmed
  have hend : ∀ w rest, t.toList = w ++ rest → skipBlank rest = [] → t.toList = w := by
    intro w rest hcs hrest
    rw [hcs] at hlast ⊢
    rw [nil_of_skipBlank hlast hrest, List.append_nil]
  unfold parse at h ⊢
  split at h
  · next v hread =>
    rw [read, skipBlank_eq_self hfirst] at hread
    split at hread
    -- words, then dictionaries, lists, quoted texts and single characters, then plain text
    · next rest hcs =>
      obtain ⟨rfl, hrest⟩ := Prod.mk.inj (Option.some.inj hread)
      rw [hend "true".toList rest hcs hrest]
      exact .yes
    · next rest hcs =>
      obtain ⟨rfl, hrest⟩ := Prod.mk.inj (Option.some.inj hread)
      rw [hend "false".toList rest hcs hrest]
      exact .no
    · exact nomatch (scalarText?_of_map (fun _ => rfl) hread).symm.trans h
    · exact nomatch (scalarText?_of_map (fun _ => rfl) hread).symm.trans h
    · exact nomatch (scalarText?_of_map (fun _ => rfl) hread).symm.trans h
    · split at hread
      · obtain ⟨rfl, -⟩ := Prod.mk.inj (Option.some.inj hread)
        exact nomatch h
      · exact nomatch hread
    · obtain ⟨hv, hrest⟩ := Prod.mk.inj (Option.some.inj hread)
      have hwhole := List.takeWhile_append_dropWhile (p := fun c => !isSeparator c) (l := t.toList)
      rw [hrest, List.append_nil] at hwhole
      rw [hwhole, trimmed] at hv
      subst hv
      exact spelling_of_ofPlain h
  · exact nomatch h

/-! ### Blanks around a spelling -/

theorem blank_plain {c : Char} (h : Text.isBlank c = true) : startsPlain c = true ∧ isSeparator c = false :=
  plain_of_marks (p := Text.isBlank) (by decide) h

theorem trim_toString (n : Int) : Text.trim (toString n) = toString n := by
  have hdigits : ∀ m, ∀ c ∈ Nat.toDigits 10 m, Text.isBlank c = false := fun m c hc =>
    isBlank_of_isDigit (Nat.isDigit_of_mem_toDigits (b := 10) (by decide) (by decide) hc)
  have hall : ∀ c ∈ (toString n).toList, Text.isBlank c = false := by
    cases n with
    | ofNat m =>
      rw [toList_toString_ofNat]
      exact hdigits m
    | negSucc m =>
      have hneg : (toString (Int.negSucc m)).toList = '-' :: Nat.toDigits 10 (m + 1) :=
        toList_toString_neg (Nat.succ_pos m)
      intro c hc
      rw [hneg] at hc
      rcases List.mem_cons.mp hc with rfl | hc
      · decide
      · exact hdigits _ c hc
  rw [Text.trim, (Text.trimChars_eq_self_iff _).mpr ⟨fun c hc => hall c (List.mem_of_head? hc),
    fun c hc => hall c (List.mem_of_getLast? hc)⟩, String.ofList_toList]

/-- With blanks around it a truth value may be read as a text, but as that of the truth value. -/
theorem given_word {raw : String} {word : List Char} {b : Bool} (hb : toString b = String.ofList word)
    (hread : ∀ cs rest fuel, skipBlank cs = word ++ rest → read (fuel + 1) cs = some (boolean b, skipBlank rest))
    (nonempty : word ≠ []) (hplain : ofPlain word = text (String.ofList word))
    (hsep : word.any isSeparator = false) (htrim : Text.trimChars raw.toList = word) :
    ∃ y, (parse raw).given = .text y ∧ Text.trim y = String.ofList word := by
  have hraw : Text.trim raw = String.ofList word := by rw [Text.trim, htrim]
  have hword : Text.trimChars word = word := by rw [← htrim, Text.trimChars_trimChars]
  have hwordTrim : Text.trim (String.ofList word) = String.ofList word := by
    rw [Text.trim, String.toList_ofList, hword]
  obtain ⟨w, w', hw, hw', hcs⟩ := exists_blanks raw.toList
  rw [htrim, List.append_assoc] at hcs
  by_cases hall : ∀ c ∈ w, isBlank c = true
  · have hskip : skipBlank raw.toList = word ++ w' := by
      rw [hcs, skipBlank, List.dropWhile_append_of_pos hall]
      refine skipBlank_eq_self fun c hc => ((Text.trimChars_eq_self_iff _).mp hword).1 c ?_
      rwa [List.head?_append_of_ne_nil _ nonempty] at hc
    rw [parse, hread _ _ _ hskip]
    split
    · next v heq =>
      obtain ⟨rfl, -⟩ := Prod.mk.inj (Option.some.inj heq)
      exact ⟨toString b, rfl, by rw [hb, hwordTrim]⟩
    · exact ⟨raw, rfl, hraw⟩
  · -- a blank that does not stand between values makes plain text of the whole
    have hstart : ∀ c ∈ (skipBlank raw.toList).head?, startsPlain c = true := by
      intro c hc
      have hne : w.dropWhile isBlank ≠ [] := fun hnil => hall (List.dropWhile_eq_nil_iff.mp hnil)
      rw [hcs, skipBlank, List.dropWhile_append, if_neg (by simpa using hne), List.head?_append_of_ne_nil _ hne] at hc
      exact (blank_plain (hw c ((List.dropWhile_sublist _).subset (List.mem_of_head? hc)))).1
    have hwhole : ∀ c ∈ raw.toList, isSeparator c = false := by
      intro c hc
      rw [hcs] at hc
      rcases List.mem_append.mp hc with hc | hc
      · exact (blank_plain (hw c hc)).2
      · rcases List.mem_append.mp hc with hc | hc
        · exact by simpa using List.any_eq_false.mp hsep c hc
        · exact (blank_plain (hw' c hc)).2
    rw [parse_plain hstart hwhole, htrim, hplain]
    exact ⟨_, rfl, hwordTrim⟩

theorem parse_number {raw : String} {n : Int} (h : Spelling (Text.trimChars raw.toList) (.integer n)) :
    parse raw = .integer n := by
  obtain ⟨w, w', hw, hw', hcs⟩ := exists_blanks raw.toList
  have hall : ∀ c ∈ raw.toList, startsPlain c = true ∧ isSeparator c = false := by
    intro c hc
    rw [hcs] at hc
    rcases List.mem_append.mp hc with hc | hc
    · rcases List.mem_append.mp hc with hc | hc
      · exact blank_plain (hw c hc)
      · exact ⟨(h.plain hc).1, (h.plain hc).2.1⟩
    · exact blank_plain (hw' c hc)
  have hpoint : '.' ∉ Text.trimChars raw.toList := fun hc => (h.plain hc).2.2.2 rfl
  rw [parse_plain (fun c hc => (hall c ((List.dropWhile_sublist _).subset (List.mem_of_head? hc))).1)
    fun c hc => (hall c hc).2, ofPlain_of_no_point hpoint, wholeNumber?_eq_some_iff.mpr h]

/-- Whatever blanks there are around a spelling, it gives the text of its value. -/
theorem given_spelling {raw x : String} {v : EnvValue} (h : Spelling (Text.trimChars raw.toList) v)
    (hx : v.scalarText? = some x) : ∃ y, (parse raw).given = .text y ∧ Text.trim y = x := by
  generalize hcs : Text.trimChars raw.toList = cs at h
  cases h with
  | yes =>
    obtain rfl := Option.some.inj hx
    refine given_word (b := true) rfl (fun cs rest fuel hskip => ?_) (by decide) (by decide) (by decide) hcs
    rw [read, hskip]
    rfl
  | no =>
    obtain rfl := Option.some.inj hx
    refine given_word (b := false) rfl (fun cs rest fuel hskip => ?_) (by decide) (by decide) (by decide) hcs
    rw [read, hskip]
    rfl
  | whole sign nonempty digits fits =>
    obtain rfl := Option.some.inj hx
    refine ⟨_, ?_, trim_toString _⟩
    rw [parse_number (hcs.symm ▸ Spelling.whole sign nonempty digits fits)]
    rfl

end EnvValue

end Parley.Config

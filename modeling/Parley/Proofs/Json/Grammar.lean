import Parley.Json.Skip
import Parley.Proofs.Json.Numeral

/-!
# The grammar of JSON

* `Quoted.Spans cs rest` : a string stands in front of `rest`, after its opening quote;
* `Numeral.Unsigned ds` : the digits `ds` are a number without its sign;
* `Ends rest` : a value can end in front of `rest`;
* `Spans p cs rest` : what `p` says stands in front of `rest`; `IsText t` : the whole of `t` is a value, and
  `IsText.spans` : it is one wherever it can end;
* `Reader.members_ok`, `Reader.document_object_ok` : the members of an object one by one, and those of a whole text;
* `Reader.spans_value` : whatever is read as a value is one.
-/

namespace Parley.Json

/-! ## Strings -/

namespace Quoted

/-- Characters that need no escape, escapes of one letter, escapes of four digits, and the closing quote. -/
inductive Spans : List Char → List Char → Prop
  | close (rest : List Char) : Spans ('"' :: rest) rest
  | plain {c : Char} {cs rest : List Char} (quote : c ≠ '"') (backslash : c ≠ '\\') (control : ¬ c.toNat < 32)
      (next : Spans cs rest) : Spans (c :: cs) rest
  | letter {e : Char} {cs rest : List Char} (known : (unescape? e).isSome = true) (next : Spans cs rest) :
      Spans ('\\' :: e :: cs) rest
  | digits {h₁ h₂ h₃ h₄ : Char} {cs rest : List Char} (hex : (unit? h₁ h₂ h₃ h₄).isSome = true)
      (next : Spans cs rest) : Spans ('\\' :: 'u' :: h₁ :: h₂ :: h₃ :: h₄ :: cs) rest

theorem Spans.append {cs rest : List Char} (h : Spans cs rest) (more : List Char) :
    Spans (cs ++ more) (rest ++ more) := by
  induction h with
  | close rest => exact .close (rest ++ more)
  | plain quote backslash control _ ih => exact .plain quote backslash control ih
  | letter known _ ih => exact .letter known ih
  | digits hex _ ih => exact .digits hex ih

theorem of_cons_ok {c : Char} {r : Except Fault (List Char × List Char)} {s rest : List Char}
    (h : cons c r = .ok (s, rest)) : ∃ s', r = .ok (s', rest) := by
  cases r with
  | error f => exact nomatch h
  | ok r =>
    obtain ⟨s', rest'⟩ := r
    obtain ⟨-, rfl⟩ := Prod.mk.inj (Except.ok.inj h)
    exact ⟨s', rfl⟩

theorem spans_decode {cs s rest : List Char} (h : decode cs = .ok (s, rest)) : Spans cs rest := by
  fun_induction decode cs generalizing s rest with
  | case2 =>
    obtain ⟨-, rfl⟩ := Prod.mk.inj (Except.ok.inj h)
    exact .close _
  | case4 e _ _ he _ ih =>
    obtain ⟨s', h⟩ := of_cons_ok h
    exact .letter (Option.isSome_of_eq_some he) (ih h)
  | case12 =>
    -- a surrogate pair is two escapes one after the other
    rename_i hunit _ _ b hb u hu _ _ _ _ _ _ hunit' _ _ _ ih
    obtain ⟨s', h⟩ := of_cons_ok h
    obtain rfl := Decidable.not_not.mp hb
    obtain rfl := Decidable.not_not.mp hu
    exact .digits (Option.isSome_of_eq_some hunit) (.digits (Option.isSome_of_eq_some hunit') (ih h))
  | case15 =>
    rename_i hunit _ _ _ _ ih
    obtain ⟨s', h⟩ := of_cons_ok h
    exact .digits (Option.isSome_of_eq_some hunit) (ih h)
  | case19 c _ hquote hbackslash hcontrol ih =>
    obtain ⟨s', h⟩ := of_cons_ok h
    exact .plain hquote hbackslash hcontrol (ih h)
  | _ => contradiction

end Quoted

/-! ## Numbers -/

/-- A value can end before the rest: what follows is a blank, a comma, a closing bracket, or nothing. -/
def Ends (rest : List Char) : Prop :=
  ∀ c ∈ rest.head?, Reader.isBlank c = true ∨ c = ',' ∨ c = ']' ∨ c = '}'

theorem ends_cons {c : Char} (h : Reader.isBlank c = true ∨ c = ',' ∨ c = ']' ∨ c = '}') (cs : List Char) :
    Ends (c :: cs) := by
  intro c' hc'
  obtain rfl := Option.some.inj hc'
  exact h

theorem Ends.append {rest more : List Char} (h : Ends rest) (hmore : Ends more) : Ends (rest ++ more) := by
  cases rest with
  | nil => exact hmore
  | cons c cs => exact ends_cons (h c rfl) (cs ++ more)

theorem Reader.Follows.ends {rest : List Char} (h : Reader.Follows rest) : Ends rest := fun c hc => .inr (h c hc)

theorem ends_of_skipBlank {cs rest : List Char} {c : Char} (h : Reader.skipBlank cs = c :: rest)
    (hc : c = ',' ∨ c = ']' ∨ c = '}') : Ends cs := by
  cases cs with
  | nil => exact nomatch h
  | cons c' cs =>
    by_cases hblank : Reader.isBlank c' = true
    · exact ends_cons (.inl hblank) cs
    · rw [Reader.skipBlank_cons (Bool.eq_false_iff.mpr hblank)] at h
      obtain ⟨rfl, -⟩ := List.cons.inj h
      exact ends_cons (.inr hc) cs

namespace Numeral

theorem of_ends {c : Char} {rest : List Char} (h : Ends (c :: rest)) :
    isDigit c = false ∧ c ≠ '.' ∧ c ≠ 'e' ∧ c ≠ 'E' := by
  have hc := h c rfl
  simp only [Reader.isBlank, Bool.or_eq_true, beq_iff_eq] at hc
  obtain (((rfl | rfl) | rfl) | rfl) | rfl | rfl | rfl := hc <;> decide

/-- Zero, or digits that do not start with it. -/
inductive Whole : List Char → Prop
  | zero : Whole ['0']
  | digits {c : Char} {cs : List Char} (first : isDigit c = true) (nonzero : c ≠ '0')
      (more : ∀ x ∈ cs, isDigit x = true) : Whole (c :: cs)

/-- A point and digits, or nothing. -/
inductive Fraction : List Char → Prop
  | none : Fraction []
  | point {c : Char} {cs : List Char} (first : isDigit c = true) (more : ∀ x ∈ cs, isDigit x = true) :
      Fraction ('.' :: c :: cs)

/-- A letter, perhaps a sign, and digits, or nothing at all. -/
inductive Exponent : List Char → Prop
  | none : Exponent []
  | letter {e : Char} {sign : List Char} {c : Char} {cs : List Char} (he : e = 'e' ∨ e = 'E')
      (hsign : sign = [] ∨ sign = ['+'] ∨ sign = ['-']) (first : isDigit c = true)
      (more : ∀ x ∈ cs, isDigit x = true) : Exponent (e :: (sign ++ c :: cs))

inductive Unsigned : List Char → Prop
  | mk {whole fraction exponent : List Char} (hwhole : Whole whole) (hfraction : Fraction fraction)
      (hexponent : Exponent exponent) : Unsigned (whole ++ (fraction ++ exponent))

theorem Unsigned.starts {ds : List Char} (h : Unsigned ds) : ∃ c cs, ds = c :: cs ∧ isDigit c = true := by
  obtain ⟨hwhole, -, -⟩ := h
  cases hwhole with
  | zero => exact ⟨'0', _, rfl, rfl⟩
  | digits first _ _ => exact ⟨_, _, rfl, first⟩

/-! What follows a run of digits is found whether or not some of them are taken before. -/

theorem isDigit_of_digit? {c : Char} {d : Nat} (h : digit? c = some d) : isDigit c = true := Option.isSome_of_eq_some h

theorem dropWhile_absorb (n k : Nat) (cs : List Char) :
    (absorb n k cs).2.2.dropWhile isDigit = cs.dropWhile isDigit := by
  fun_induction absorb n k cs with
  | case3 n k c cs d hd _ ih => rw [ih, List.dropWhile_cons_of_pos (isDigit_of_digit? hd)]
  | _ => rfl

theorem dropWhile_exponentDigits (e : Nat) (cs : List Char) :
    (exponentDigits e cs).2.dropWhile isDigit = cs.dropWhile isDigit := by
  fun_induction exponentDigits e cs with
  | case3 e c cs d hd _ ih => rw [ih, List.dropWhile_cons_of_pos (isDigit_of_digit? hd)]
  | case4 e c cs d hd => rw [List.dropWhile_cons_of_pos (isDigit_of_digit? hd)]
  | _ => rfl

/-- An exponent that is small enough is read to its end. -/
theorem exponentDigits_some {e e' : Nat} {cs rest : List Char} (h : exponentDigits e cs = (some e', rest)) :
    rest = cs.dropWhile isDigit := by
  fun_induction exponentDigits e cs with
  | case1 => exact (Prod.mk.inj h).2.symm
  | case2 e c cs hc =>
    have hno : isDigit c = false := by rw [isDigit, hc]; rfl
    rw [List.dropWhile_cons_of_neg (by simp [hno])]
    exact (Prod.mk.inj h).2.symm
  | case3 e c cs d hd _ ih => rw [ih h, List.dropWhile_cons_of_pos (isDigit_of_digit? hd)]
  | case4 => exact nomatch (Prod.mk.inj h).1

theorem finish_rest {negative : Bool} {significand : Nat} {e : Int} {cs rest : List Char} {n : Number}
    (h : finish negative significand e cs = .ok (n, rest)) : rest = cs := by
  unfold finish at h
  split at h
  · exact nomatch h
  · exact (Prod.mk.inj (Except.ok.inj h)).2.symm

theorem exists_digits {cs : List Char} (h : startsWithDigit cs = true) :
    ∃ c ds, isDigit c = true ∧ (∀ x ∈ ds, isDigit x = true) ∧ cs = c :: (ds ++ cs.dropWhile isDigit) := by
  cases cs with
  | nil => exact nomatch h
  | cons c cs =>
    refine ⟨c, cs.takeWhile isDigit, h, fun x hx => List.all_eq_true.mp List.all_takeWhile x hx, ?_⟩
    have hc : isDigit c = true := h
    rw [List.dropWhile_cons_of_pos hc, List.takeWhile_append_dropWhile]

/-! ## What is read as a number -/

variable {negative : Bool} {n : Number} {cs rest : List Char}

theorem exists_exponent {significand : Nat} {start : Int} {e : Char} (he : e = 'e' ∨ e = 'E')
    (h : exponent negative significand start cs = .ok (n, rest)) : ∃ ds, Exponent ds ∧ e :: cs = ds ++ rest := by
  unfold exponent at h
  split at h
  next down cs' hpair =>
    obtain ⟨sign, hsign, rfl⟩ : ∃ sign, (sign = [] ∨ sign = ['+'] ∨ sign = ['-']) ∧ cs = sign ++ cs' := by
      split at hpair
      · exact ⟨['+'], .inr (.inl rfl), congrArg _ (Prod.mk.inj hpair).2⟩
      · exact ⟨['-'], .inr (.inr rfl), congrArg _ (Prod.mk.inj hpair).2⟩
      · exact ⟨[], .inl rfl, (Prod.mk.inj hpair).2⟩
    obtain ⟨hstart, hrest⟩ : startsWithDigit cs' = true ∧ rest = cs'.dropWhile isDigit := by
      cases cs' with
      | nil => exact nomatch h
      | cons c cs' =>
        dsimp only at h
        split at h
        · exact nomatch h
        · next d hd =>
          have hc := isDigit_of_digit? hd
          rw [List.dropWhile_cons_of_pos hc]
          refine ⟨hc, ?_⟩
          split at h
          · next hsome => rw [finish_rest h, exponentDigits_some hsome]
          · next hnone =>
            have hdrop := dropWhile_exponentDigits d cs'
            rw [hnone] at hdrop
            split at h
            · exact nomatch h
            · exact (Prod.mk.inj (Except.ok.inj h)).2.symm.trans hdrop
    obtain ⟨c, ds, hc, hds, hcs⟩ := exists_digits hstart
    refine ⟨_, .letter he hsign hc hds, ?_⟩
    rw [hcs, ← hrest]
    simp

theorem exists_tail {significand : Nat} {start : Int} {cs' : List Char}
    (h : (match cs' with
      | 'e' :: cs | 'E' :: cs => exponent negative significand start cs
      | cs => finish negative significand start cs) = .ok (n, rest)) : ∃ ds, Exponent ds ∧ cs' = ds ++ rest := by
  split at h
  · exact exists_exponent (.inl rfl) h
  · exact exists_exponent (.inr rfl) h
  · exact ⟨[], .none, (finish_rest h).symm⟩

theorem exists_fraction {significand dropped : Nat} (h : fraction negative significand dropped cs = .ok (n, rest)) :
    ∃ ds ds', Fraction ds ∧ Exponent ds' ∧ '.' :: cs = ds ++ (ds' ++ rest) := by
  unfold fraction at h
  have hdrop := dropWhile_absorb significand 0 cs
  have hstop : startsWithDigit cs = false → absorb significand 0 cs = (significand, 0, cs) :=
    fun hstart => absorb_stop hstart significand 0
  generalize absorb significand 0 cs = r at h hdrop hstop
  obtain ⟨significand', count, rest'⟩ := r
  dsimp only at h hdrop hstop
  split at h
  · split at h <;> exact nomatch h
  · next hsome =>
    -- had there been no digit, none would have been taken
    have hstart : startsWithDigit cs = true := by
      cases hno : startsWithDigit cs with
      | true => rfl
      | false =>
        obtain ⟨-, hcount, hrest⟩ : significand' = significand ∧ count = 0 ∧ rest' = cs := by
          simpa using hstop hno
        exact absurd ⟨hcount, by simp [hrest, hno]⟩ hsome
    obtain ⟨c, ds, hc, hds, hcs⟩ := exists_digits hstart
    rw [hdrop] at h
    obtain ⟨ds', hds', htail⟩ := exists_tail h
    refine ⟨_, ds', .point hc hds, hds', ?_⟩
    rw [hcs, htail]
    simp

theorem exists_afterWhole {significand dropped : Nat} (h : afterWhole negative significand dropped cs = .ok (n, rest)) :
    ∃ ds ds', Fraction ds ∧ Exponent ds' ∧ cs = ds ++ (ds' ++ rest) := by
  unfold afterWhole at h
  split at h
  · exact exists_fraction h
  · obtain ⟨ds, hds, hcs⟩ := exists_exponent (.inl rfl) h
    exact ⟨[], ds, .none, hds, hcs⟩
  · obtain ⟨ds, hds, hcs⟩ := exists_exponent (.inr rfl) h
    exact ⟨[], ds, .none, hds, hcs⟩
  · refine ⟨[], [], .none, .none, ?_⟩
    split_ifs at h
    · exact (finish_rest h).symm
    · exact (finish_rest h).symm
    · exact (Prod.mk.inj (Except.ok.inj h)).2
    · exact (Prod.mk.inj (Except.ok.inj h)).2

theorem digit?_eq_zero {c : Char} (h : digit? c = some 0) : c = '0' := by
  unfold digit? at h
  split at h
  · next hc =>
    have hlow : '0'.toNat ≤ c.toNat := hc.1
    have hzero : c.toNat - 48 = 0 := Option.some.inj h
    have hnum : c.toNat = '0'.toNat := by
      have : '0'.toNat = 48 := rfl
      omega
    rw [← Char.ofNat_toNat c, hnum]
    rfl
  · exact nomatch h

theorem exists_unsigned (h : decode negative cs = .ok (n, rest)) : ∃ ds, Unsigned ds ∧ cs = ds ++ rest := by
  unfold decode at h
  split at h
  · exact nomatch h
  · next c cs =>
    split at h
    · exact nomatch h
    · next hzero =>
      split at h
      · exact nomatch h
      · obtain ⟨ds, ds', hds, hds', rfl⟩ := exists_afterWhole h
        refine ⟨_, .mk .zero hds hds', ?_⟩
        rw [digit?_eq_zero hzero]
        simp
    · next d hpos hd =>
      have hdrop := dropWhile_absorb d 0 cs
      generalize absorb d 0 cs = r at h hdrop
      dsimp only at h
      rw [hdrop] at h
      obtain ⟨ds, ds', hds, hds', hcs⟩ := exists_afterWhole h
      have hstart : startsWithDigit (c :: cs) = true := isDigit_of_digit? hd
      obtain ⟨c', ds₀, hc', hds₀, hcs₀⟩ := exists_digits hstart
      obtain ⟨rfl, hcs₀⟩ := List.cons.inj hcs₀
      rw [List.dropWhile_cons_of_pos hc', hcs] at hcs₀
      refine ⟨_, .mk (.digits hc' ?_ hds₀) hds hds', ?_⟩
      · rintro rfl
        exact hpos (Option.some.inj hd).symm
      · rw [hcs₀]
        simp

end Numeral

/-! ## Values -/

/-- What may stand at the front of a text. -/
inductive Part
  | value
  /-- The items of an array with the bracket after them; some may have been there already. -/
  | items (first : Bool)
  | members (first : Bool)
  /-- A member and those after it, from its name on. -/
  | name
  /-- The same from its colon on. -/
  | colon

inductive Spans : Part → List Char → List Char → Prop
  | blank {p : Part} {c : Char} {cs rest : List Char} (h : Reader.isBlank c = true) (next : Spans p cs rest) :
      Spans p (c :: cs) rest
  | word {w : List Char} (h : w = "null".toList ∨ w = "true".toList ∨ w = "false".toList) (rest : List Char) :
      Spans .value (w ++ rest) rest
  | positive {ds rest : List Char} (h : Numeral.Unsigned ds) (ends : Ends rest) : Spans .value (ds ++ rest) rest
  | negative {ds rest : List Char} (h : Numeral.Unsigned ds) (ends : Ends rest) :
      Spans .value ('-' :: (ds ++ rest)) rest
  | text {cs rest : List Char} (h : Quoted.Spans cs rest) : Spans .value ('"' :: cs) rest
  | array {cs rest : List Char} (h : Spans (.items true) cs rest) : Spans .value ('[' :: cs) rest
  | object {cs rest : List Char} (h : Spans (.members true) cs rest) : Spans .value ('{' :: cs) rest
  | itemsEnd (first : Bool) (rest : List Char) : Spans (.items first) (']' :: rest) rest
  | itemsFirst {cs mid rest : List Char} (item : Spans .value cs mid) (more : Spans (.items false) mid rest) :
      Spans (.items true) cs rest
  | itemsNext {cs mid rest : List Char} (item : Spans .value cs mid) (more : Spans (.items false) mid rest) :
      Spans (.items false) (',' :: cs) rest
  | membersEnd (first : Bool) (rest : List Char) : Spans (.members first) ('}' :: rest) rest
  | membersFirst {cs rest : List Char} (more : Spans .name cs rest) : Spans (.members true) cs rest
  | membersNext {cs rest : List Char} (more : Spans .name cs rest) : Spans (.members false) (',' :: cs) rest
  | name {cs mid rest : List Char} (name : Quoted.Spans cs mid) (more : Spans .colon mid rest) :
      Spans .name ('"' :: cs) rest
  | colon {cs mid rest : List Char} (value : Spans .value cs mid) (more : Spans (.members false) mid rest) :
      Spans .colon (':' :: cs) rest

/-- The whole text is a value, perhaps with blanks in front. -/
def IsText (t : List Char) : Prop := Spans .value t []

theorem Spans.append {p : Part} {cs rest more : List Char} (h : Spans p cs rest) (ends : Ends more) :
    Spans p (cs ++ more) (rest ++ more) := by
  induction h with
  | blank h _ ih => exact .blank h ih
  | word h rest =>
    rw [List.append_assoc]
    exact .word h (rest ++ more)
  | positive h hends =>
    rw [List.append_assoc]
    exact .positive h (hends.append ends)
  | negative h hends =>
    rw [List.cons_append, List.append_assoc]
    exact .negative h (hends.append ends)
  | text h => exact .text (h.append more)
  | array _ ih => exact .array ih
  | object _ ih => exact .object ih
  | itemsEnd first rest => exact .itemsEnd first (rest ++ more)
  | itemsFirst _ _ item more => exact .itemsFirst item more
  | itemsNext _ _ item more => exact .itemsNext item more
  | membersEnd first rest => exact .membersEnd first (rest ++ more)
  | membersFirst _ ih => exact .membersFirst ih
  | membersNext _ ih => exact .membersNext ih
  | name h _ ih => exact .name (h.append more) ih
  | colon _ _ value more => exact .colon value more

theorem IsText.spans {t : List Char} (h : IsText t) {rest : List Char} (ends : Ends rest) :
    Spans .value (t ++ rest) rest :=
  Spans.append h ends

theorem spans_of_skipBlank {p : Part} {cs rest : List Char} (h : Spans p (Reader.skipBlank cs) rest) :
    Spans p cs rest := by
  induction cs with
  | nil => exact h
  | cons c cs ih =>
    by_cases hc : Reader.isBlank c = true
    · rw [Reader.skipBlank, List.dropWhile_cons_of_pos hc] at h
      exact .blank hc (ih h)
    · rwa [Reader.skipBlank_cons (Bool.eq_false_iff.mpr hc)] at h

/-! ## What is read as a value -/

namespace Reader

theorem keyword_ok {ws cs rest : List Char} (h : keyword ws cs = .ok rest) : cs = ws ++ rest := by
  fun_induction keyword ws cs with
  | case1 => exact Except.ok.inj h
  | case2 => exact nomatch h
  | case3 w ws cs ih => rw [ih h, List.cons_append]
  | case4 => exact nomatch h

variable {item : List Char → Result Value} {cs rest : List Char}

/-- The array ends, or an item stands where the array starts or after a comma. -/
theorem nextItem_ok {first : Bool} {o : Option (List Char)} (h : nextItem first cs = .ok o) :
    (o = none ∧ skipBlank cs = ']' :: closing cs) ∨ (first = true ∧ o = some (skipBlank cs)) ∨
      first = false ∧ ∃ rest, skipBlank cs = ',' :: rest ∧ o = some (skipBlank rest) := by
  unfold nextItem at h
  split at h
  · cases h
  · next heq => exact .inl ⟨(Except.ok.inj h).symm, by rw [closing, heq, List.tail_cons]⟩
  · next heq =>
    cases first with
    | true => exact .inr (.inl ⟨rfl, heq ▸ (Except.ok.inj h).symm⟩)
    | false =>
      rw [if_neg Bool.false_ne_true] at h
      split at h
      · cases h
      · cases h
      · exact .inr (.inr ⟨rfl, _, heq, (Except.ok.inj h).symm⟩)
  · cases first with
    | true => exact .inr (.inl ⟨rfl, (Except.ok.inj h).symm⟩)
    | false => cases h

/-- The object ends, or a name stands where the object starts or after a comma. -/
theorem nextName_ok {first : Bool} {o : Option (List Char)} (h : nextName first cs = .ok o) :
    (o = none ∧ skipBlank cs = '}' :: closing cs) ∨ ∃ name, o = some name ∧
      ((first = true ∧ skipBlank cs = '"' :: name) ∨
        first = false ∧ ∃ rest, skipBlank cs = ',' :: rest ∧ skipBlank rest = '"' :: name) := by
  unfold nextName at h
  split at h
  · cases h
  · next heq => exact .inl ⟨(Except.ok.inj h).symm, by rw [closing, heq, List.tail_cons]⟩
  · next c rest _ heq =>
    split at h
    · next hcomma =>
      obtain ⟨rfl, hfirst⟩ := hcomma
      split at h
      · cases h
      · next hrest =>
        exact .inr ⟨_, (Except.ok.inj h).symm, .inr ⟨Bool.eq_false_iff.mpr hfirst, rest, heq, hrest⟩⟩
      · cases h
      · cases h
    · split at h
      · cases h
      · next hfirst =>
        split at h
        · next hquote =>
          subst hquote
          exact .inr ⟨_, (Except.ok.inj h).symm, .inl ⟨by simpa using hfirst, heq⟩⟩
        · cases h

theorem ends_of_nextItem {o : Option (List Char)} (h : nextItem false cs = .ok o) : Ends cs := by
  obtain ⟨-, hcs⟩ | ⟨hfirst, -⟩ | ⟨-, rest, hcs, -⟩ := nextItem_ok h
  · exact ends_of_skipBlank hcs (.inr (.inl rfl))
  · exact nomatch hfirst
  · exact ends_of_skipBlank hcs (.inl rfl)

theorem ends_of_nextName {o : Option (List Char)} (h : nextName false cs = .ok o) : Ends cs := by
  obtain ⟨-, hcs⟩ | ⟨name, -, ⟨hfirst, -⟩ | ⟨-, rest, hcs, -⟩⟩ := nextName_ok h
  · exact ends_of_skipBlank hcs (.inr (.inr rfl))
  · exact nomatch hfirst
  · exact ends_of_skipBlank hcs (.inl rfl)

theorem colon_ok (h : colon cs = .ok rest) : skipBlank cs = ':' :: rest := by
  unfold colon at h
  split at h
  · exact nomatch h
  · next heq => rw [heq, Except.ok.inj h]
  · exact nomatch h

theorem ends_of_items {fuel : Nat} {vs : List Value} (h : items item fuel false cs = .ok (vs, rest)) : Ends cs := by
  cases fuel with
  | zero => cases h
  | succ fuel =>
    cases hnext : nextItem false cs with
    | ok o => exact ends_of_nextItem hnext
    | error f =>
      rw [items.eq_def] at h
      dsimp only at h
      rw [hnext] at h
      cases h

theorem ends_of_members {fuel : Nat} {ms : List (String × Value)} (h : members item fuel false cs = .ok (ms, rest)) :
    Ends cs := by
  cases fuel with
  | zero => cases h
  | succ fuel =>
    cases hnext : nextName false cs with
    | ok o => exact ends_of_nextName hnext
    | error f =>
      rw [members.eq_def] at h
      dsimp only at h
      rw [hnext] at h
      cases h

/-- The members of an object have come to an end, or there is another one: a name, a value, and those after it. -/
theorem members_ok {fuel : Nat} {first : Bool} {ms : List (String × Value)}
    (h : members item (fuel + 1) first cs = .ok (ms, rest)) :
    (ms = [] ∧ nextName first cs = .ok none ∧ rest = closing cs) ∨
      ∃ cs₁ s cs₂ cs₃ v cs₄ ms', nextName first cs = .ok (some cs₁) ∧ Quoted.decode cs₁ = .ok (s, cs₂) ∧
        colon cs₂ = .ok cs₃ ∧ item cs₃ = .ok (v, cs₄) ∧ members item fuel false cs₄ = .ok (ms', rest) ∧
        ms = (String.ofList s, v) :: ms' := by
  rw [members.eq_def] at h
  dsimp only at h
  split at h
  · cases h
  · next hnext =>
    obtain ⟨rfl, rfl⟩ := Prod.mk.inj (Except.ok.inj h)
    exact .inl ⟨rfl, hnext, rfl⟩
  · next cs₁ hnext =>
    split at h
    · cases h
    · next s cs₃ hname =>
      obtain ⟨s, cs₂, hdecode, hcolon, rfl⟩ : ∃ s' cs₂, Quoted.decode cs₁ = .ok (s', cs₂) ∧ colon cs₂ = .ok cs₃ ∧
          String.ofList s' = s := by
        unfold name at hname
        split at hname
        · cases hname
        · next hdecode =>
          split at hname
          · cases hname
          · next hcolon =>
            obtain ⟨rfl, rfl⟩ := Prod.mk.inj (Except.ok.inj hname)
            exact ⟨_, _, hdecode, hcolon, rfl⟩
      split at h
      · cases h
      · next hitem =>
        split at h
        · cases h
        · next hmembers =>
          obtain ⟨rfl, rfl⟩ := Prod.mk.inj (Except.ok.inj h)
          exact .inr ⟨_, _, _, _, _, _, _, hnext, hdecode, hcolon, hitem, hmembers, rfl⟩

theorem node_object_ok {ms : Members} (h : node (some item) cs = .ok (.object ms, rest)) :
    ∃ inner ps, skipBlank cs = '{' :: inner ∧ members item (inner.length + 1) true inner = .ok (ps, rest) ∧
      ms = Members.ofPairs ps := by
  obtain ⟨inner, hstart⟩ := node_object h
  rw [node, hstart] at h
  dsimp only at h
  rw [if_neg (by decide), if_neg (by decide), if_pos rfl] at h
  obtain ⟨r, hmembers, hr⟩ := of_map_ok h
  obtain ⟨hms, rfl⟩ := Prod.mk.inj hr
  exact ⟨inner, r.1, hstart, hmembers, (Value.object.inj hms).symm⟩

/-- The members of an object that is a whole text, as they are written. -/
theorem document_object_ok {ms : Members} (h : document cs = .ok (.object ms)) :
    ∃ inner ps rest, skipBlank cs = '{' :: inner ∧
      members (value (maxDepth - 1)) (inner.length + 1) true inner = .ok (ps, rest) ∧ finish rest = .ok () ∧
      ms = Members.ofPairs ps := by
  unfold document at h
  split at h
  · exact nomatch h
  · next v rest hv =>
    split at h
    · exact nomatch h
    · next hend =>
      obtain rfl := Except.ok.inj h
      obtain ⟨inner, ps, hstart, hmembers, hms⟩ := node_object_ok hv
      exact ⟨inner, ps, rest, hstart, hmembers, hend, hms⟩

section Containers

-- items and members are read by a reader of values
variable (hitem : ∀ cs v rest, item cs = .ok (v, rest) → Ends rest → Spans .value cs rest)
include hitem

theorem spans_items {fuel : Nat} {first : Bool} {vs : List Value} (h : items item fuel first cs = .ok (vs, rest)) :
    Spans (.items first) cs rest := by
  induction fuel generalizing first cs vs with
  | zero => exact nomatch h
  | succ fuel ih =>
    rw [items.eq_def] at h
    dsimp only at h
    split at h
    · exact nomatch h
    · next hnext =>
      obtain ⟨-, rfl⟩ := Prod.mk.inj (Except.ok.inj h)
      refine spans_of_skipBlank ?_
      obtain ⟨-, hcs⟩ | ⟨-, ho⟩ | ⟨-, _, -, ho⟩ := nextItem_ok hnext
      · rw [hcs]
        exact .itemsEnd first _
      · exact nomatch ho
      · exact nomatch ho
    · next cs₁ hnext =>
      split at h
      · exact nomatch h
      · next cs₂ hvalue =>
        split at h
        · exact nomatch h
        · next hmore =>
          obtain ⟨-, rfl⟩ := Prod.mk.inj (Except.ok.inj h)
          have hvalue := hitem _ _ _ hvalue (ends_of_items hmore)
          refine spans_of_skipBlank ?_
          obtain ⟨ho, -⟩ | ⟨rfl, ho⟩ | ⟨rfl, cs', hcs, ho⟩ := nextItem_ok hnext
          · exact nomatch ho
          · obtain rfl := Option.some.inj ho
            exact .itemsFirst hvalue (ih hmore)
          · obtain rfl := Option.some.inj ho
            rw [hcs]
            exact .itemsNext (spans_of_skipBlank hvalue) (ih hmore)

theorem spans_members {fuel : Nat} {first : Bool} {ms : List (String × Value)}
    (h : members item fuel first cs = .ok (ms, rest)) : Spans (.members first) cs rest := by
  induction fuel generalizing first cs ms with
  | zero => exact nomatch h
  | succ fuel ih =>
    refine spans_of_skipBlank ?_
    obtain ⟨-, hnext, rfl⟩ | ⟨cs₁, s, cs₂, cs₃, v, cs₄, ms', hnext, hname, hcolon, hvalue, hmore, -⟩ := members_ok h
    · obtain ⟨-, hcs⟩ | ⟨_, ho, -⟩ := nextName_ok hnext
      · rw [hcs]
        exact .membersEnd first _
      · exact nomatch ho
    · have hmember : Spans .name ('"' :: cs₁) rest := by
        refine .name (Quoted.spans_decode hname) (spans_of_skipBlank ?_)
        rw [colon_ok hcolon]
        exact .colon (hitem _ _ _ hvalue (ends_of_members hmore)) (ih hmore)
      obtain ⟨ho, -⟩ | ⟨_, ho, ⟨rfl, hcs⟩ | ⟨rfl, cs', hcs, hcs'⟩⟩ := nextName_ok hnext
      · exact nomatch ho
      · obtain rfl := Option.some.inj ho
        rw [hcs]
        exact .membersFirst hmember
      · obtain rfl := Option.some.inj ho
        rw [hcs]
        refine .membersNext (spans_of_skipBlank ?_)
        rw [hcs']
        exact hmember

end Containers

theorem spans_node {item : Option (List Char → Result Value)}
    (hitem : ∀ read ∈ item, ∀ cs v rest, read cs = .ok (v, rest) → Ends rest → Spans .value cs rest)
    {cs rest : List Char} {v : Value} (h : node item cs = .ok (v, rest)) (ends : Ends rest) :
    Spans .value cs rest := by
  refine spans_of_skipBlank ?_
  unfold node at h
  split at h
  · exact nomatch h
  · next c cs₁ hcs =>
    rw [hcs]
    split_ifs at h with hquote hbracket hbrace hn ht hf hminus hdigit
    · obtain ⟨r, hr, hv⟩ := of_map_ok h
      obtain ⟨-, rfl⟩ := Prod.mk.inj hv
      rw [hquote]
      exact .text (Quoted.spans_decode hr)
    · cases item with
      | none => exact nomatch h
      | some read =>
        obtain ⟨r, hr, hv⟩ := of_map_ok h
        obtain ⟨-, rfl⟩ := Prod.mk.inj hv
        rw [hbracket]
        exact .array (spans_items (hitem read rfl) hr)
    · cases item with
      | none => exact nomatch h
      | some read =>
        obtain ⟨r, hr, hv⟩ := of_map_ok h
        obtain ⟨-, rfl⟩ := Prod.mk.inj hv
        rw [hbrace]
        exact .object (spans_members (hitem read rfl) hr)
    · obtain ⟨r, hr, hv⟩ := of_map_ok h
      obtain ⟨-, rfl⟩ := Prod.mk.inj hv
      rw [hn, keyword_ok hr]
      exact .word (.inl rfl) _
    · obtain ⟨r, hr, hv⟩ := of_map_ok h
      obtain ⟨-, rfl⟩ := Prod.mk.inj hv
      rw [ht, keyword_ok hr]
      exact .word (.inr (.inl rfl)) _
    · obtain ⟨r, hr, hv⟩ := of_map_ok h
      obtain ⟨-, rfl⟩ := Prod.mk.inj hv
      rw [hf, keyword_ok hr]
      exact .word (.inr (.inr rfl)) _
    · obtain ⟨r, hr, hv⟩ := of_map_ok h
      obtain ⟨-, rfl⟩ := Prod.mk.inj hv
      obtain ⟨ds, hds, rfl⟩ := Numeral.exists_unsigned hr
      rw [hminus]
      exact .negative hds ends
    · obtain ⟨r, hr, hv⟩ := of_map_ok h
      obtain ⟨-, rfl⟩ := Prod.mk.inj hv
      obtain ⟨ds, hds, hds'⟩ := Numeral.exists_unsigned hr
      rw [hds']
      exact .positive hds ends

theorem spans_value {depth : Nat} {cs rest : List Char} {v : Value} (h : value depth cs = .ok (v, rest))
    (ends : Ends rest) : Spans .value cs rest := by
  induction depth generalizing cs v rest with
  | zero => exact spans_node (fun read hread => absurd hread (Option.not_mem_none read)) h ends
  | succ depth ih =>
    refine spans_node (fun read hread => ?_) h ends
    obtain rfl : value depth = read := Option.some.inj hread
    exact fun cs v rest => ih

end Reader

end Parley.Json

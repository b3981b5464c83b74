import Mathlib.Data.List.DropRight
import Parley.Proofs.Json.Grammar

/-!
# Values that nobody wants

* `Numeral.Unsigned.skip`, `Quoted.Spans.skip` : numbers and strings are passed over to their ends;
* `Skip.Passes p cs rest` : the walk over open brackets gets from `cs` to `rest`; `passes` : it does so over all that
  the grammar allows;
* `Skip.value_of_spans`, `Skip.value_of_read` : values of any depth, and in particular whatever can be read.
-/

namespace Parley.Json

/-! ## Numbers and strings -/

theorem Quoted.Spans.skip {cs rest : List Char} (h : Quoted.Spans cs rest) : Quoted.skip cs = .ok rest := by
  induction h with
  | close rest => rw [Quoted.skip.eq_def]; rfl
  | plain quote backslash control _ ih =>
    rw [Quoted.skip.eq_def]
    dsimp only
    rw [if_neg quote, if_neg backslash, if_neg control, ih]
  | letter known _ ih =>
    rw [Quoted.skip.eq_def]
    dsimp only
    rw [if_neg (by decide), if_pos rfl, if_pos known, ih]
  | digits hex _ ih =>
    rw [Quoted.skip.eq_def]
    dsimp only
    rw [if_neg (by decide), if_pos rfl, if_neg (by decide), if_pos rfl, if_pos hex, ih]

theorem Quoted.Spans.length_le {cs rest : List Char} (h : Quoted.Spans cs rest) : rest.length ≤ cs.length := by
  induction h <;> simp only [List.length_cons] <;> omega

namespace Skip

open Numeral (isDigit startsWithDigit Whole Fraction Exponent Unsigned of_ends)

variable {cs rest : List Char}

theorem dropWhile_digits {ds : List Char} (h : ∀ x ∈ ds, isDigit x = true) (hrest : startsWithDigit rest = false) :
    (ds ++ rest).dropWhile isDigit = rest := by
  rw [List.dropWhile_append_of_pos h]
  cases rest with
  | nil => rfl
  | cons c rest =>
    have hc : isDigit c = false := hrest
    exact List.dropWhile_cons_of_neg (by simp [hc])

theorem startsWithDigit_of_ends (ends : Ends rest) : startsWithDigit rest = false := by
  cases rest with
  | nil => rfl
  | cons c rest => exact (of_ends ends).1

theorem startsWithDigit_exponent {ds : List Char} (h : Exponent ds) (ends : Ends rest) :
    startsWithDigit (ds ++ rest) = false := by
  cases h with
  | none => exact startsWithDigit_of_ends ends
  | letter he => obtain rfl | rfl := he <;> rfl

theorem exponent_chars {sign : List Char} {c : Char} {ds : List Char}
    (hsign : sign = [] ∨ sign = ['+'] ∨ sign = ['-']) (first : isDigit c = true) (more : ∀ x ∈ ds, isDigit x = true)
    (ends : Ends rest) : exponent (sign ++ (c :: ds) ++ rest) = .ok rest := by
  have hdigits : (if isDigit c then .ok ((ds ++ rest).dropWhile isDigit)
      else .error (.ofNext .badNumber (c :: (ds ++ rest)))) = (.ok rest : Except Fault (List Char)) := by
    rw [if_pos first, dropWhile_digits more (startsWithDigit_of_ends ends)]
  unfold exponent
  obtain rfl | rfl | rfl := hsign
  · rw [List.nil_append, List.cons_append]
    split
    · next heq => exact absurd (List.cons.inj heq).1 (Reader.ne_of_isDigit first rfl)
    · next heq => exact absurd (List.cons.inj heq).1 (Reader.ne_of_isDigit first rfl)
    · exact hdigits
  · exact hdigits
  · exact hdigits

theorem tail_chars {ds : List Char} (h : Exponent ds) (ends : Ends rest) :
    (match ds ++ rest with
      | 'e' :: cs | 'E' :: cs => exponent cs
      | cs => .ok cs) = .ok rest := by
  cases h with
  | none =>
    rw [List.nil_append]
    split
    · exact absurd rfl (of_ends ends).2.2.1
    · exact absurd rfl (of_ends ends).2.2.2
    · rfl
  | letter he hsign first more => obtain rfl | rfl := he <;> exact exponent_chars hsign first more ends

theorem whole_chars {ds : List Char} (h : Whole ds) (hrest : startsWithDigit rest = false) :
    ∃ c cs, ds ++ rest = c :: cs ∧ isDigit c = true ∧ ¬(c = '0' ∧ startsWithDigit cs = true) ∧
      cs.dropWhile isDigit = rest := by
  cases h with
  | zero =>
    have hnone : ∀ x ∈ ([] : List Char), isDigit x = true := fun x hx => absurd hx List.not_mem_nil
    exact ⟨'0', rest, rfl, rfl, by simp [hrest], dropWhile_digits hnone hrest⟩
  | digits first nonzero more => exact ⟨_, _, rfl, first, fun h => nonzero h.1, dropWhile_digits more hrest⟩

theorem startsWithDigit_fraction {ds : List Char} (h : Fraction ds) (hrest : startsWithDigit rest = false) :
    startsWithDigit (ds ++ rest) = false := by
  cases h with
  | none => exact hrest
  | point => rfl

theorem number_chars {ds : List Char} (h : Unsigned ds) (ends : Ends rest) : number (ds ++ rest) = .ok rest := by
  obtain ⟨hwhole, hfraction, hexponent⟩ := h
  have htail := startsWithDigit_exponent hexponent ends
  obtain ⟨c, cs, hcs, hc, hzero, hdrop⟩ := whole_chars hwhole (startsWithDigit_fraction hfraction htail)
  rw [List.append_assoc, List.append_assoc, hcs, number, if_neg (by simp [hc]), if_neg hzero, hdrop]
  cases hfraction with
  | point first more =>
    have hpoint := dropWhile_digits more htail
    simp only [List.cons_append, startsWithDigit, first, not_true_eq_false, if_false,
      List.dropWhile_cons_of_pos first, hpoint]
    exact tail_chars hexponent ends
  | none =>
    rw [List.nil_append]
    cases hexponent with
    | letter he hsign first more => obtain rfl | rfl := he <;> exact exponent_chars hsign first more ends
    | none =>
      rw [List.nil_append]
      split
      · exact absurd rfl (of_ends ends).2.1
      · exact absurd rfl (of_ends ends).2.2.1
      · exact absurd rfl (of_ends ends).2.2.2
      · rfl

/-! ## Open brackets -/

def place : Bool → Place
  | true => .opened
  | false => .between

/-- What is left of the walk after a value within these brackets. -/
def resume (fuel : Nat) (opens : List Bracket) (rest : List Char) : Except Fault (List Char) :=
  if opens = [] then .ok rest else run fuel .between opens rest

def closing (b : Bracket) : Char := if b = .array then ']' else '}'

variable {fuel : Nat} {b : Bracket} {opens : List Bracket}

theorem run_simple (h : front cs = .ok (none, rest)) : run (fuel + 1) .value opens cs = resume fuel opens rest := by
  rw [run, h]
  rfl

theorem run_bracket (h : front cs = .ok (some b, rest)) :
    run (fuel + 1) .value opens cs = run fuel .opened (b :: opens) rest := by
  rw [run, h]

theorem run_closing (first : Bool) (h : Reader.skipBlank cs = closing b :: rest) :
    run (fuel + 1) (place first) (b :: opens) cs = resume fuel opens rest := by
  cases first with
  | true =>
    rw [place, run.eq_def]
    dsimp only
    rw [h]
    exact if_pos rfl
  | false =>
    rw [place, run.eq_def]
    dsimp only
    rw [h]
    exact if_pos rfl

theorem run_item {c : Char} {cs' : List Char} (h : Reader.skipBlank cs = c :: cs') (hc : c ≠ ']') :
    run (fuel + 1) .opened (.array :: opens) cs = run fuel .value (.array :: opens) (c :: cs') := by
  rw [run.eq_def]
  dsimp only
  rw [h]
  dsimp only
  rw [if_pos rfl, if_neg hc]
  exact if_pos rfl

theorem exists_quote {cs' : List Char} (h : name cs = .ok cs') : ∃ rest, Reader.skipBlank cs = '"' :: rest := by
  unfold name at h
  split at h
  · exact nomatch h
  · next heq => exact ⟨_, heq⟩
  · exact nomatch h

theorem run_member {cs' : List Char} (h : name cs = .ok cs') :
    run (fuel + 1) .opened (.object :: opens) cs = run fuel .value (.object :: opens) cs' := by
  obtain ⟨rest, hrest⟩ := exists_quote h
  have hname : name ('"' :: rest) = .ok cs' := by
    rw [← h, name, name, hrest]
    rfl
  rw [run.eq_def]
  dsimp only
  rw [hrest]
  dsimp only
  rw [hname]
  rfl

theorem run_comma_member {cs' : List Char} (h : name cs = .ok cs') :
    run (fuel + 1) .between (.object :: opens) (',' :: cs) = run fuel .value (.object :: opens) cs' := by
  rw [run.eq_def]
  dsimp only
  rw [Reader.skipBlank_cons (by decide)]
  dsimp only
  rw [h]
  rfl

/-- The walk gets from one text to the other in a number of steps that is bounded by their lengths. -/
def Gets (at' : Place) (own : List Bracket) (cs rest : List Char) (bound : Nat) : Prop :=
  ∃ n, n + 2 + 2 * rest.length ≤ bound ∧
    ∀ fuel opens, run (n + 1 + fuel) at' (own ++ opens) cs = resume fuel opens rest

def Passes : Part → List Char → List Char → Prop
  | .value, cs, rest => (∃ c cs', Reader.skipBlank cs = c :: cs' ∧ c ≠ ']') ∧ Gets .value [] cs rest (2 * cs.length)
  | .items first, cs, rest => Gets (place first) [.array] cs rest (2 * cs.length)
  | .members first, cs, rest => Gets (place first) [.object] cs rest (2 * cs.length)
  | .name, cs, rest => ∃ cs', name cs = .ok cs' ∧ Gets .value [.object] cs' rest (2 * cs.length - 1)
  | .colon, cs, rest => ∃ cs', Reader.colon cs = .ok cs' ∧ Gets .value [.object] cs' rest (2 * cs.length)

theorem Gets.mono {at' : Place} {own : List Bracket} {bound bound' : Nat} (h : Gets at' own cs rest bound)
    (le : bound ≤ bound') : Gets at' own cs rest bound' := by
  obtain ⟨n, hn, hrun⟩ := h
  exact ⟨n, by omega, hrun⟩

theorem Gets.two_le {at' : Place} {own : List Bracket} {bound : Nat} (h : Gets at' own cs rest bound) : 2 ≤ bound := by
  obtain ⟨n, hn, -⟩ := h
  omega

theorem Gets.step {at' at'' : Place} {own own' : List Bracket} {cs' : List Char} {bound : Nat}
    (h : Gets at'' own' cs' rest bound)
    (step : ∀ fuel opens, run (fuel + 1) at' (own ++ opens) cs = run fuel at'' (own' ++ opens) cs') :
    Gets at' own cs rest (bound + 1) := by
  obtain ⟨n, hn, hrun⟩ := h
  refine ⟨n + 1, by omega, fun fuel opens => ?_⟩
  rw [Nat.add_right_comm (n + 1) 1 fuel, step, hrun]

theorem Gets.close (first : Bool) {c : Char} (h : Reader.skipBlank (c :: rest) = closing b :: rest) :
    Gets (place first) [b] (c :: rest) rest (2 * (c :: rest).length) := by
  refine ⟨0, ?_, fun fuel opens => ?_⟩
  · rw [List.length_cons]
    omega
  · rw [Nat.zero_add, Nat.add_comm]
    exact run_closing first h

theorem Gets.skipBlank {own : List Bracket} {bound : Nat} (h : Gets .value own cs rest bound) :
    Gets .value own (Reader.skipBlank cs) rest bound := by
  obtain ⟨n, hn, hrun⟩ := h
  have htwice : Reader.skipBlank (Reader.skipBlank cs) = Reader.skipBlank cs :=
    List.dropWhile_idempotent Reader.isBlank cs
  refine ⟨n, hn, fun fuel opens => ?_⟩
  rw [← hrun, Nat.add_right_comm, run, run, front, front, htwice]

/-- A value is passed over, and then what comes after it within a bracket. -/
theorem Gets.trans {mid : List Char} {bound : Nat} (h : Gets .value [] cs mid bound)
    (h' : Gets .between [b] mid rest (2 * mid.length)) : Gets .value [b] cs rest (bound - 1) := by
  obtain ⟨n, hn, hrun⟩ := h
  obtain ⟨m, hm, hrun'⟩ := h'
  refine ⟨n + m + 1, by omega, fun fuel opens => ?_⟩
  have hsteps : n + m + 1 + 1 + fuel = n + 1 + (m + 1 + fuel) := by omega
  rw [hsteps, ← hrun']
  exact hrun (m + 1 + fuel) ([b] ++ opens)

theorem passes_blank {p : Part} {c : Char} (hc : Reader.isBlank c = true) (h : Passes p cs rest) :
    Passes p (c :: cs) rest := by
  have hskip : Reader.skipBlank (c :: cs) = Reader.skipBlank cs := List.dropWhile_cons_of_pos hc
  have hrun : ∀ (first : Bool) fuel b opens,
      run (fuel + 1) (place first) (b :: opens) (c :: cs) = run (fuel + 1) (place first) (b :: opens) cs := by
    intro first fuel b opens
    cases first <;> rw [place, run.eq_def, run.eq_def] <;> dsimp only <;> rw [hskip]
  cases p with
  | value =>
    obtain ⟨hstart, n, hn, hgets⟩ := h
    refine ⟨hskip ▸ hstart, n, ?_, ?_⟩
    · rw [List.length_cons]
      omega
    · intro fuel opens
      rw [← hgets, Nat.add_right_comm, run, run, front, front, hskip]
  | items first =>
    obtain ⟨n, hn, hgets⟩ := h
    refine ⟨n, ?_, fun fuel opens => ?_⟩
    · rw [List.length_cons]
      omega
    · rw [← hgets, Nat.add_right_comm]
      exact hrun first (n + fuel) .array opens
  | members first =>
    obtain ⟨n, hn, hgets⟩ := h
    refine ⟨n, ?_, fun fuel opens => ?_⟩
    · rw [List.length_cons]
      omega
    · rw [← hgets, Nat.add_right_comm]
      exact hrun first (n + fuel) .object opens
  | name =>
    obtain ⟨cs', hname, hgets⟩ := h
    refine ⟨cs', ?_, hgets.mono (by rw [List.length_cons]; omega)⟩
    rw [← hname, name, name, hskip]
  | colon =>
    obtain ⟨cs', hcolon, hgets⟩ := h
    refine ⟨cs', ?_, hgets.mono (by rw [List.length_cons]; omega)⟩
    rw [← hcolon, Reader.colon, Reader.colon, hskip]

theorem passes_simple {c : Char} (hblank : Reader.isBlank c = false) (hc : c ≠ ']')
    (h : front (c :: cs) = .ok (none, rest)) (hlength : rest.length ≤ cs.length) : Passes .value (c :: cs) rest := by
  refine ⟨⟨c, cs, Reader.skipBlank_cons hblank cs, hc⟩, 0, ?_, fun fuel opens => ?_⟩
  · rw [List.length_cons]
    omega
  · rw [Nat.zero_add, Nat.add_comm]
    exact run_simple h

theorem passes_bracket {c : Char} (hblank : Reader.isBlank c = false) (hc : c ≠ ']')
    (h : front (c :: cs) = .ok (some b, cs)) (hgets : Gets .opened [b] cs rest (2 * cs.length)) :
    Passes .value (c :: cs) rest := by
  refine ⟨⟨c, cs, Reader.skipBlank_cons hblank cs, hc⟩, ?_⟩
  refine Gets.mono (hgets.step fun fuel opens => run_bracket h) ?_
  rw [List.length_cons]
  omega

theorem name_quote {mid : List Char} (h : Quoted.Spans cs mid) : name ('"' :: cs) = Reader.colon mid := by
  have hname : name ('"' :: cs) = (Quoted.skip cs).bind Reader.colon := by
    rw [name, Reader.skipBlank_cons (by decide)]
    cases hskip : Quoted.skip cs <;> simp [hskip, Except.bind]
  rw [hname, h.skip]
  rfl

theorem front_quote (cs : List Char) : front ('"' :: cs) = (Quoted.skip cs).map (none, ·) := rfl

theorem front_minus (cs : List Char) : front ('-' :: cs) = (number cs).map (none, ·) := rfl

theorem front_digit {c : Char} (h : isDigit c = true) (cs : List Char) :
    front (c :: cs) = (number (c :: cs)).map (none, ·) := by
  have hne : ∀ x, isDigit x = false → c ≠ x := fun x => Reader.ne_of_isDigit h
  rw [front, Reader.skipBlank_cons (Reader.isBlank_of_isDigit h)]
  dsimp only
  rw [if_neg (hne '"' rfl), if_neg (hne '[' rfl), if_neg (hne '{' rfl), if_neg (hne 'n' rfl), if_neg (hne 't' rfl),
    if_neg (hne 'f' rfl), if_neg (hne '-' rfl), if_pos h]

theorem passes {p : Part} (h : Spans p cs rest) : Passes p cs rest := by
  induction h with
  | blank h _ ih => exact passes_blank h ih
  | word h rest =>
    obtain rfl | rfl | rfl := h
    all_goals exact passes_simple rfl (by decide) rfl (by simp; omega)
  | positive h ends =>
    obtain ⟨c, cs, rfl, hc⟩ := h.starts
    rw [List.cons_append]
    refine passes_simple (Reader.isBlank_of_isDigit hc) (Reader.ne_of_isDigit hc rfl) ?_ (by simp)
    rw [front_digit hc, ← List.cons_append, number_chars h ends]
    rfl
  | negative h ends =>
    refine passes_simple rfl (by decide) ?_ (by simp)
    rw [front_minus, number_chars h ends]
    rfl
  | text h =>
    refine passes_simple rfl (by decide) ?_ h.length_le
    rw [front_quote, h.skip]
    rfl
  | array _ ih => exact passes_bracket rfl (by decide) rfl ih
  | object _ ih => exact passes_bracket rfl (by decide) rfl ih
  | itemsEnd first rest => exact Gets.close first rfl
  | itemsFirst _ _ value more =>
    obtain ⟨⟨c, cs', hstart, hc⟩, value⟩ := value
    have hgets := value.skipBlank.trans more
    rw [hstart] at hgets
    have hpos := value.two_le
    exact Gets.mono (hgets.step fun fuel opens => run_item hstart hc) (by omega)
  | itemsNext _ _ value more =>
    refine Gets.mono ((value.2.trans more).step fun fuel opens => run_comma _) ?_
    rw [List.length_cons]
    omega
  | membersEnd first rest => exact Gets.close first rfl
  | membersFirst _ ih =>
    obtain ⟨cs', hname, hgets⟩ := ih
    have hpos := hgets.two_le
    exact Gets.mono (hgets.step fun fuel opens => run_member hname) (by omega)
  | membersNext _ ih =>
    obtain ⟨cs', hname, hgets⟩ := ih
    refine Gets.mono (hgets.step fun fuel opens => run_comma_member hname) ?_
    rw [List.length_cons]
    omega
  | name h _ ih =>
    obtain ⟨cs', hcolon, hgets⟩ := ih
    refine ⟨cs', ?_, hgets.mono ?_⟩
    · rw [← hcolon]
      exact name_quote h
    · have hlength := h.length_le
      rw [List.length_cons]
      omega
  | colon _ _ value more =>
    refine ⟨_, rfl, (value.2.trans more).mono ?_⟩
    rw [List.length_cons]
    omega

/-- A value of any depth is passed over, whatever the size of its numbers. -/
theorem value_of_spans (h : Spans .value cs rest) : value cs = .ok rest := by
  obtain ⟨-, n, hn, hrun⟩ := passes h
  have hfuel : 2 * cs.length + 2 = n + 1 + (2 * cs.length + 1 - n) := by omega
  rw [value, hfuel]
  exact hrun _ []

theorem value_of_read {depth : Nat} {v : Value} (h : Reader.value depth cs = .ok (v, rest)) (ends : Ends rest) :
    value cs = .ok rest :=
  value_of_spans (Reader.spans_value h ends)

end Skip

end Parley.Json

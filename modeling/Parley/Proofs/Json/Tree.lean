import Mathlib.Data.String.Basic
import Parley.Proofs.Json.Numeral

/-!
# What was read can be read again

* `reads_keyword`, `reads_array` : the values that are no text, number or object;
* `Members.sorted_ofPairs`, `Members.mem_of_mem_ofPairs` : the members of an object, whatever order they came in;
* `Members.find?_insert`, `Members.find?_ofPairs` : which of them is found under a name;
* `Value.Fits` : what can be read with so many containers open at once; `fits_value`, `fits_document`;
* `Value.Whole` : a value whose numbers are whole and have 64 bits; `Fits.reads` : its text is read as that value;
* `Fits.of_member?`, `Whole.of_member?` : the same of its members.
-/

namespace Parley.Json

/-! ## Keywords and arrays -/

namespace Reader

theorem reads_null (depth : Nat) : Reads (value depth) .null := by
  intro rest _
  cases depth <;> rfl

theorem reads_boolean (depth : Nat) (b : Bool) : Reads (value depth) (.boolean b) := by
  intro rest _
  cases b <;> cases depth <;> rfl

/-- The items after another one, each with a comma before it. -/
def laterItems : List Value → List Char
  | [] => []
  | v :: vs => ',' :: itemChars (v :: vs)

theorem itemChars_cons (v : Value) (vs : List Value) : itemChars (v :: vs) = v.chars ++ laterItems vs := by
  cases vs <;> simp [itemChars, laterItems]

theorem follows_laterItems (vs : List Value) (rest : List Char) : Follows (laterItems vs ++ ']' :: rest) := by
  intro c hc
  cases vs with
  | nil =>
    obtain rfl : ']' = c := by simpa [laterItems] using hc
    exact .inr (.inl rfl)
  | cons v vs =>
    obtain rfl : ',' = c := by simpa [laterItems] using hc
    exact .inl rfl

/-- The text of a value that can be told from the end of an array. -/
def Starts (v : Value) : Prop := ∃ c cs, v.chars = c :: cs ∧ isBlank c = false ∧ c ≠ ']'

/-- Where the next item starts, after a comma unless it is the first. -/
theorem nextItem_chars {v : Value} (h : Starts v) (first : Bool) (rest : List Char) :
    nextItem first ((if first then [] else [',']) ++ (v.chars ++ rest)) = .ok (some (v.chars ++ rest)) := by
  obtain ⟨c, cs, hchars, hblank, hend⟩ := h
  rw [hchars, List.cons_append]
  have hskip : skipBlank (c :: (cs ++ rest)) = c :: (cs ++ rest) := skipBlank_cons hblank _
  unfold nextItem
  cases first with
  | true =>
    simp only [if_true, List.nil_append]
    rw [hskip]
    -- a comma would be taken for the item itself
    split
    · next heq => exact nomatch heq
    · next heq => exact absurd (List.cons.inj heq).1 hend
    · next heq => rw [heq]
    · rfl
  | false =>
    simp only [Bool.false_eq_true, if_false, List.cons_append, List.nil_append]
    rw [skipBlank_cons (by decide)]
    simp [hskip, hend]

theorem items_cons {item : List Char → Result Value} {v : Value} (h : Reads item v) (starts : Starts v)
    (vs : List Value) (fuel : Nat) (first : Bool) (rest : List Char) :
    items item (fuel + 1) first ((if first then [] else [',']) ++ (itemChars (v :: vs) ++ ']' :: rest)) =
      (items item fuel false (laterItems vs ++ ']' :: rest)).map fun r => (v :: r.1, r.2) := by
  rw [itemChars_cons, List.append_assoc, items.eq_def]
  dsimp only
  rw [nextItem_chars starts]
  dsimp only
  rw [h _ (follows_laterItems vs rest)]
  cases hlater : items item fuel false (laterItems vs ++ ']' :: rest) <;> simp [hlater, Except.map]

theorem items_nil (item : List Char → Result Value) (fuel : Nat) (first : Bool) (rest : List Char) :
    items item (fuel + 1) first (']' :: rest) = .ok ([], rest) := by
  have hskip : skipBlank (']' :: rest) = ']' :: rest := skipBlank_cons (by decide) rest
  rw [items.eq_def]
  dsimp only
  rw [nextItem, hskip]
  rw [closing, hskip]
  rfl

theorem items_later {item : List Char → Result Value} {vs : List Value} (h : ∀ v ∈ vs, Reads item v)
    (starts : ∀ v ∈ vs, Starts v) {fuel : Nat} (hfuel : vs.length < fuel) (rest : List Char) :
    items item fuel false (laterItems vs ++ ']' :: rest) = .ok (vs, rest) := by
  induction vs generalizing fuel with
  | nil =>
    obtain ⟨fuel, rfl⟩ := Nat.exists_eq_add_of_lt hfuel
    exact items_nil item _ false rest
  | cons v vs ih =>
    rw [List.length_cons] at hfuel
    obtain ⟨fuel, rfl⟩ : ∃ n, fuel = n + 1 := ⟨fuel - 1, by omega⟩
    have hcons := items_cons (h v List.mem_cons_self) (starts v List.mem_cons_self) vs fuel false rest
    rw [ih (fun v' hv' => h v' (List.mem_cons_of_mem v hv')) (fun v' hv' => starts v' (List.mem_cons_of_mem v hv'))
      (by omega)] at hcons
    exact hcons

theorem items_chars {item : List Char → Result Value} {vs : List Value} (h : ∀ v ∈ vs, Reads item v)
    (starts : ∀ v ∈ vs, Starts v) {fuel : Nat} (hfuel : vs.length < fuel) (rest : List Char) :
    items item fuel true (itemChars vs ++ ']' :: rest) = .ok (vs, rest) := by
  obtain ⟨fuel, rfl⟩ : ∃ n, fuel = n + 1 := ⟨fuel - 1, by omega⟩
  cases vs with
  | nil => exact items_nil item _ true rest
  | cons v vs =>
    rw [List.length_cons] at hfuel
    have hcons := items_cons (h v List.mem_cons_self) (starts v List.mem_cons_self) vs fuel true rest
    rw [items_later (fun v' hv' => h v' (List.mem_cons_of_mem v hv'))
      (fun v' hv' => starts v' (List.mem_cons_of_mem v hv')) (by omega)] at hcons
    exact hcons

theorem length_itemChars {vs : List Value} (starts : ∀ v ∈ vs, Starts v) : vs.length ≤ (itemChars vs).length := by
  induction vs with
  | nil => exact Nat.le_refl 0
  | cons v vs ih =>
    obtain ⟨c, cs, hchars, -⟩ := starts v List.mem_cons_self
    have ih := ih fun v' hv' => starts v' (List.mem_cons_of_mem v hv')
    have hlater : vs.length ≤ (laterItems vs).length := by
      cases vs with
      | nil => exact Nat.le_refl 0
      | cons v' vs => exact Nat.le_succ_of_le ih
    rw [itemChars_cons, hchars]
    simp only [List.length_append, List.length_cons]
    omega

theorem reads_array {depth : Nat} {vs : List Value} (h : ∀ v ∈ vs, Reads (value depth) v)
    (starts : ∀ v ∈ vs, Starts v) : Reads (value (depth + 1)) (.array vs) := by
  intro rest _
  have hchars : (Value.array vs).chars ++ rest = '[' :: (itemChars vs ++ ']' :: rest) := by
    simp [Value.chars]
  have hfuel : vs.length < (itemChars vs ++ ']' :: rest).length + 1 := by
    have hlength := length_itemChars starts
    rw [List.length_append]
    omega
  rw [hchars, value, node, skipBlank_cons (by decide)]
  dsimp only
  rw [if_neg (by decide), if_pos rfl, items_chars h starts hfuel]
  simp [Except.map]

end Reader

/-! ## Members of an object -/

namespace Members

theorem mem_of_mem_insert {name : String} {v : Value} {ms : Members} {m : String × Value}
    (h : m ∈ insert name v ms) : m = (name, v) ∨ m ∈ ms := by
  induction ms with
  | nil => exact .inl (List.mem_singleton.mp h)
  | cons m' ms ih =>
    rw [insert] at h
    split_ifs at h
    · exact List.mem_cons.mp h
    · exact (List.mem_cons.mp h).imp_right (List.mem_cons_of_mem m')
    · rcases List.mem_cons.mp h with rfl | h
      · exact .inr List.mem_cons_self
      · exact (ih h).imp_right (List.mem_cons_of_mem m')

theorem Sorted.insert {ms : Members} (h : Sorted ms) (name : String) (v : Value) : Sorted (insert name v ms) := by
  induction ms with
  | nil => exact List.pairwise_singleton _ _
  | cons m ms ih =>
    obtain ⟨hfirst, hrest⟩ := List.pairwise_cons.mp h
    rw [Members.insert]
    split_ifs with hlt heq
    · refine List.pairwise_cons.mpr ⟨fun m' hm' => ?_, h⟩
      rcases List.mem_cons.mp hm' with rfl | hm'
      · exact hlt
      · exact hlt.trans (hfirst m' hm')
    · subst heq
      exact List.pairwise_cons.mpr ⟨hfirst, hrest⟩
    · refine List.pairwise_cons.mpr ⟨fun m' hm' => ?_, ih hrest⟩
      rcases mem_of_mem_insert hm' with rfl | hm'
      · exact lt_of_le_of_ne (not_lt.mp hlt) (Ne.symm heq)
      · exact hfirst m' hm'

theorem sorted_ofPairs (pairs : List (String × Value)) : Sorted (ofPairs pairs) := by
  have hfoldl : ∀ ms, Sorted ms → Sorted (pairs.foldl (fun ms p => insert p.1 p.2 ms) ms) := by
    induction pairs with
    | nil => exact fun ms h => h
    | cons p pairs ih => exact fun ms h => ih _ (h.insert p.1 p.2)
  exact hfoldl [] List.Pairwise.nil

theorem mem_of_mem_ofPairs {pairs : List (String × Value)} {m : String × Value} (h : m ∈ ofPairs pairs) :
    m ∈ pairs := by
  have hfoldl : ∀ ms, m ∈ pairs.foldl (fun ms p => insert p.1 p.2 ms) ms → m ∈ pairs ∨ m ∈ ms := by
    clear h
    induction pairs with
    | nil => exact fun ms h => .inr h
    | cons p pairs ih =>
      intro ms h
      rcases ih _ h with h | h
      · exact .inl (List.mem_cons_of_mem p h)
      · exact (mem_of_mem_insert h).imp_left fun heq => by
          rw [heq]
          exact List.mem_cons_self
  exact (hfoldl [] h).resolve_right List.not_mem_nil

theorem find?_cons (m : String × Value) (ms : Members) (name : String) :
    find? (m :: ms) name = if name = m.1 then some m.2 else find? ms name := by
  obtain ⟨first, v⟩ := m
  have hcons : find? ((first, v) :: ms) name = bif name == first then some v else find? ms name := List.lookup_cons
  by_cases h : name = first
  · rw [if_pos h, hcons, beq_iff_eq.mpr h]
    rfl
  · rw [if_neg h, hcons, beq_eq_false_iff_ne.mpr h]
    rfl

theorem find?_insert (name : String) (v : Value) (ms : Members) (other : String) :
    find? (insert name v ms) other = if other = name then some v else find? ms other := by
  induction ms with
  | nil => exact find?_cons (name, v) [] other
  | cons m ms ih =>
    rw [insert]
    by_cases hlt : name < m.1
    · rw [if_pos hlt, find?_cons]
    rw [if_neg hlt]
    by_cases heq : name = m.1
    · rw [if_pos heq, find?_cons, find?_cons, ← heq]
      split_ifs <;> rfl
    · rw [if_neg heq, find?_cons, find?_cons, ih]
      by_cases hname : other = name
      · rw [if_pos hname, if_pos hname, if_neg (hname ▸ heq)]
      · rw [if_neg hname, if_neg hname]

/-- Of members with names of their own each is found under its name. -/
theorem find?_ofPairs {ps : List (String × Value)} (distinct : (ps.map Prod.fst).Nodup) {name : String} {v : Value} :
    find? (ofPairs ps) name = some v ↔ (name, v) ∈ ps := by
  have hfoldl : ∀ ms, find? (ps.foldl (fun ms p => insert p.1 p.2 ms) ms) name = some v ↔
      (name, v) ∈ ps ∨ find? ms name = some v ∧ name ∉ ps.map Prod.fst := by
    induction ps with
    | nil => simp
    | cons p ps ih =>
      obtain ⟨hfirst, hrest⟩ := List.nodup_cons.mp distinct
      intro ms
      rw [List.foldl_cons, ih hrest, find?_insert, List.mem_cons, List.map_cons, List.mem_cons]
      by_cases hname : name = p.1
      · subst hname
        have hlater : (p.1, v) ∉ ps := fun hmem => hfirst (List.mem_map.mpr ⟨_, hmem, rfl⟩)
        simp [hfirst, hlater, Prod.ext_iff, eq_comm]
      · simp [hname, Prod.ext_iff]
  simpa [ofPairs, find?] using hfoldl []

end Members

/-! ## What is read -/

namespace Value

/-- What can be read with so many containers open at once; the members of an object stand in the order of their names. -/
inductive Fits : Nat → Value → Prop
  | null {d : Nat} : Fits d null
  | boolean {d : Nat} (b : Bool) : Fits d (boolean b)
  | number {d : Nat} (n : Number) : Fits d (number n)
  | text {d : Nat} (s : String) : Fits d (text s)
  | array {d : Nat} {vs : List Value} (items : ∀ v ∈ vs, Fits d v) : Fits (d + 1) (array vs)
  | object {d : Nat} {ms : Members} (sorted : Members.Sorted ms) (members : ∀ m ∈ ms, Fits d m.2) :
      Fits (d + 1) (object ms)

inductive Whole : Value → Prop
  | null : Whole null
  | boolean (b : Bool) : Whole (boolean b)
  | number {n : Int} (low : -2 ^ 63 ≤ n) (high : n < 2 ^ 64) : Whole (number (.integer n))
  | text (s : String) : Whole (text s)
  | array {vs : List Value} (items : ∀ v ∈ vs, Whole v) : Whole (array vs)
  | object {ms : Members} (members : ∀ m ∈ ms, Whole m.2) : Whole (object ms)

theorem Fits.mono {d e : Nat} {v : Value} (h : Fits d v) (le : d ≤ e) : Fits e v := by
  induction h generalizing e with
  | null => exact .null
  | boolean b => exact .boolean b
  | number n => exact .number n
  | text s => exact .text s
  | array _ ih =>
    obtain ⟨e, rfl⟩ := Nat.exists_eq_succ_of_ne_zero (Nat.ne_of_gt (Nat.lt_of_lt_of_le (Nat.succ_pos _) le))
    exact .array fun v hv => ih v hv (Nat.le_of_succ_le_succ le)
  | object sorted _ ih =>
    obtain ⟨e, rfl⟩ := Nat.exists_eq_succ_of_ne_zero (Nat.ne_of_gt (Nat.lt_of_lt_of_le (Nat.succ_pos _) le))
    exact .object sorted fun m hm => ih m hm (Nat.le_of_succ_le_succ le)

end Value

namespace Reader

variable {item : List Char → Result Value} {P : Value → Prop}

theorem forall_items (h : ∀ cs v rest, item cs = .ok (v, rest) → P v) {fuel : Nat} {first : Bool}
    {cs rest : List Char} {vs : List Value} (hitems : items item fuel first cs = .ok (vs, rest)) : ∀ v ∈ vs, P v := by
  induction fuel generalizing first cs rest vs with
  | zero => exact nomatch hitems
  | succ fuel ih =>
    rw [items.eq_def] at hitems
    dsimp only at hitems
    split at hitems
    · exact nomatch hitems
    · obtain ⟨rfl, -⟩ := Prod.mk.inj (Except.ok.inj hitems)
      exact fun v hv => absurd hv List.not_mem_nil
    · split at hitems
      · exact nomatch hitems
      · next hitem =>
        split at hitems
        · exact nomatch hitems
        · next hrest =>
          obtain ⟨rfl, -⟩ := Prod.mk.inj (Except.ok.inj hitems)
          exact List.forall_mem_cons.mpr ⟨h _ _ _ hitem, ih hrest⟩

theorem forall_members (h : ∀ cs v rest, item cs = .ok (v, rest) → P v) {fuel : Nat} {first : Bool}
    {cs rest : List Char} {ms : List (String × Value)} (hmembers : members item fuel first cs = .ok (ms, rest)) :
    ∀ m ∈ ms, P m.2 := by
  induction fuel generalizing first cs rest ms with
  | zero => exact nomatch hmembers
  | succ fuel ih =>
    rw [members.eq_def] at hmembers
    dsimp only at hmembers
    split at hmembers
    · exact nomatch hmembers
    · obtain ⟨rfl, -⟩ := Prod.mk.inj (Except.ok.inj hmembers)
      exact fun v hv => absurd hv List.not_mem_nil
    · split at hmembers
      · exact nomatch hmembers
      · split at hmembers
        · exact nomatch hmembers
        · next hitem =>
          split at hmembers
          · exact nomatch hmembers
          · next hrest =>
            obtain ⟨rfl, -⟩ := Prod.mk.inj (Except.ok.inj hmembers)
            exact List.forall_mem_cons.mpr ⟨h _ _ _ hitem, ih hrest⟩

/-- What is found with room for so many containers within the outermost one. -/
theorem fits_node {item : Option (List Char → Result Value)} {d : Nat}
    (inner : ∀ read ∈ item, ∃ e, d = e + 1 ∧ ∀ cs v rest, read cs = .ok (v, rest) → v.Fits e)
    {cs rest : List Char} {v : Value} (h : node item cs = .ok (v, rest)) : v.Fits d := by
  unfold node at h
  split at h
  · exact nomatch h
  · split_ifs at h
    · obtain ⟨r, -, hr⟩ := of_map_ok h
      obtain ⟨rfl, -⟩ := Prod.mk.inj hr
      exact .text _
    · cases item with
      | none => exact nomatch h
      | some read =>
        obtain ⟨e, rfl, hread⟩ := inner read rfl
        obtain ⟨r, hitems, hr⟩ := of_map_ok h
        obtain ⟨rfl, -⟩ := Prod.mk.inj hr
        exact .array (forall_items hread hitems)
    · cases item with
      | none => exact nomatch h
      | some read =>
        obtain ⟨e, rfl, hread⟩ := inner read rfl
        obtain ⟨r, hmembers, hr⟩ := of_map_ok h
        obtain ⟨rfl, -⟩ := Prod.mk.inj hr
        have hall := forall_members hread hmembers
        exact .object (Members.sorted_ofPairs r.1) fun m hm => hall m (Members.mem_of_mem_ofPairs hm)
    all_goals
      obtain ⟨r, -, hr⟩ := of_map_ok h
      obtain ⟨rfl, -⟩ := Prod.mk.inj hr
      constructor

theorem fits_value {d : Nat} {cs rest : List Char} {v : Value} (h : value d cs = .ok (v, rest)) : v.Fits d := by
  induction d generalizing cs v rest with
  | zero => exact fits_node (fun read hread => absurd hread (Option.not_mem_none read)) h
  | succ d ih =>
    refine fits_node (fun read hread => ⟨d, rfl, ?_⟩) h
    obtain rfl : value d = read := Option.some.inj hread
    exact fun cs v rest => ih

theorem fits_document {cs : List Char} {v : Value} (h : document cs = .ok v) : v.Fits maxDepth := by
  unfold document at h
  split at h
  · exact nomatch h
  · next hv =>
    split at h
    · exact nomatch h
    · obtain rfl := Except.ok.inj h
      exact fits_value hv

end Reader

/-! ## What is read again -/

namespace Value

theorem starts_integer {n : Int} (low : -2 ^ 63 ≤ n) (high : n < 2 ^ 64) :
    Reader.Starts (number (.integer n)) := by
  cases n with
  | ofNat m =>
    have hm : (m : Int) < 2 ^ 64 := high
    rw [Reader.Starts, chars_ofNat]
    rcases Nat.eq_zero_or_pos m with rfl | hpos
    · exact ⟨'0', [], rfl, rfl, by decide⟩
    · obtain ⟨c, cs, d, hdigits, hc, -⟩ := Numeral.absorb_toDigits hpos (by rw [Numeral.limit]; omega)
      have hdigit : Numeral.isDigit c = true := Option.isSome_of_eq_some hc
      exact ⟨c, cs, hdigits, Reader.isBlank_of_isDigit hdigit, Reader.ne_of_isDigit hdigit rfl⟩
  | negSucc m => exact ⟨'-', _, chars_negSucc m, rfl, by decide⟩

theorem Whole.starts {v : Value} (h : Whole v) : Reader.Starts v := by
  cases h with
  | null => exact ⟨'n', _, rfl, rfl, by decide⟩
  | boolean b => cases b with
    | false => exact ⟨'f', _, rfl, rfl, by decide⟩
    | true => exact ⟨'t', _, rfl, rfl, by decide⟩
  | number low high => exact starts_integer low high
  | text s => exact ⟨'"', _, rfl, rfl, by decide⟩
  | array items => exact ⟨'[', _, rfl, rfl, by decide⟩
  | object members => exact ⟨'{', _, rfl, rfl, by decide⟩

/-- What was read with so many containers open is read again from its own text, with as many open. -/
theorem Fits.reads {d : Nat} {v : Value} (h : Fits d v) (whole : Whole v) : Reader.Reads (Reader.value d) v := by
  induction h with
  | null => exact Reader.reads_null _
  | boolean b => exact Reader.reads_boolean _ b
  | number n =>
    cases whole with
    | number low high => exact Reader.reads_integer _ low high
  | text s => exact Reader.reads_text _ s
  | array _ ih =>
    cases whole with
    | array whole => exact Reader.reads_array (fun v hv => ih v hv (whole v hv)) fun v hv => (whole v hv).starts
  | object sorted _ ih =>
    cases whole with
    | object whole => exact Reader.reads_object sorted fun m hm => ih m hm (whole m hm)

theorem fits_parse {s : String} {v : Value} (h : Value.parse s = .ok v) : v.Fits Reader.maxDepth :=
  Reader.fits_document (Reader.of_mapError_ok h)

/-! ## Members -/

theorem mem_of_member? {name : String} {ms : Members} {r : Value} (h : (object ms).member? name = some r) :
    (name, r) ∈ ms := by
  obtain ⟨before, after, rfl, -⟩ := List.lookup_eq_some_iff.mp h
  exact List.mem_append_right before List.mem_cons_self

theorem Fits.of_member? {d : Nat} {name : String} {v r : Value} (h : Fits d v) (hr : v.member? name = some r) :
    Fits d r := by
  cases h with
  | object _ members => exact (members _ (mem_of_member? hr)).mono (Nat.le_succ _)
  | _ => exact nomatch hr

theorem Whole.of_member? {name : String} {v r : Value} (h : Whole v) (hr : v.member? name = some r) : Whole r := by
  cases h with
  | object members => exact members _ (mem_of_member? hr)
  | _ => exact nomatch hr

end Value

end Parley.Json

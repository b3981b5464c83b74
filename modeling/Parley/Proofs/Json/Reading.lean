import Parley.Json.Printer
import Parley.Json.Reader
import Parley.Proofs.Json.Quoted

/-!
# Values are read as they were written

* `Reader.whole_eq_ok_iff` : what is read up to the end of a text;
* `Reader.node_object`, `Reader.document_object` : what is read as an object starts with a brace;
* `Members.ofPairs_sorted` : members that stand in the order of their names stay as they are;
* `Reader.Reads item v` : the compact text of `v` is read by `item` as `v`, whatever may follow it in a container;
  `reads_text`, `reads_object` : texts, and objects of such values;
* `Value.parse_compact` : whole texts.
-/

namespace Parley.Json

/-! ## Objects -/

namespace Reader

/-- A reader that maps what it found found something. -/
theorem of_map_ok {ε α β : Type} {r : Except ε α} {f : α → β} {b : β} (h : r.map f = .ok b) :
    ∃ a, r = .ok a ∧ f a = b := by
  cases r with
  | error e => exact nomatch h
  | ok a => exact ⟨a, rfl, Except.ok.inj h⟩

/-- A reader whose complaints are put into other words found what it found. -/
theorem of_mapError_ok {ε ε' α : Type} {r : Except ε α} {f : ε → ε'} {a : α} (h : r.mapError f = .ok a) : r = .ok a := by
  cases r with
  | error e => exact nomatch h
  | ok a' => exact congrArg Except.ok (Except.ok.inj h)

theorem mapError_eq_ok_iff {ε ε' α : Type} {r : Except ε α} {f : ε → ε'} {a : α} : r.mapError f = .ok a ↔ r = .ok a :=
  ⟨of_mapError_ok, fun h => by rw [h]; rfl⟩

/-- Where only blanks are left after what is read, that is the whole text. -/
theorem whole_eq_ok_iff {α ε : Type} {r : Result α} {r' : Except ε α} {rest : List Char}
    (h : r.toOption = r'.toOption.map fun a => (a, rest)) (hend : finish rest = .ok ()) (a : α) :
    (r.bind fun p => (finish p.2).map fun _ => p.1) = .ok a ↔ r' = .ok a := by
  cases r with
  | error f =>
    cases r' with
    | error e => exact iff_of_false (fun h => nomatch h) (fun h => nomatch h)
    | ok b => exact nomatch h
  | ok r =>
    cases r' with
    | error e => exact nomatch h
    | ok b =>
      obtain rfl := Option.some.inj h
      dsimp only [Except.bind]
      rw [hend]
      exact ⟨fun h => congrArg Except.ok (Except.ok.inj h), fun h => congrArg Except.ok (Except.ok.inj h)⟩

theorem node_object {item : Option (List Char → Result Value)} {cs rest : List Char} {ms : Members}
    (h : node item cs = .ok (.object ms, rest)) : ∃ inner, skipBlank cs = '{' :: inner := by
  unfold node at h
  split at h
  · exact nomatch h
  · next c inner hcs =>
    by_cases hc : c = '{'
    · exact ⟨inner, hc ▸ hcs⟩
    · exfalso
      rw [if_neg hc] at h
      repeat' split at h
      all_goals first
        | (obtain ⟨r, -, hr⟩ := of_map_ok h
           simp at hr)
        | simp at h

theorem document_object {cs : List Char} {ms : Members} (h : document cs = .ok (.object ms)) :
    ∃ inner, skipBlank cs = '{' :: inner := by
  unfold document at h
  cases hv : value maxDepth cs with
  | error e =>
    rw [hv] at h
    exact nomatch h
  | ok r =>
    rw [hv] at h
    dsimp only at h
    split at h
    · exact nomatch h
    · obtain ⟨v, rest⟩ := r
      obtain rfl : v = .object ms := Except.ok.inj h
      exact node_object hv

end Reader

/-! ## Members in order -/

namespace Members

/-- A member whose name comes after the others is put at the end. -/
theorem insert_last {ms : Members} {name : String} (h : ∀ m ∈ ms, m.1 < name) (v : Value) :
    insert name v ms = ms ++ [(name, v)] := by
  induction ms with
  | nil => rfl
  | cons m ms ih =>
    have hm : m.1 < name := h m List.mem_cons_self
    have hne : name ≠ m.1 := fun heq => String.lt_irrefl name (heq ▸ hm)
    rw [insert, if_neg (String.lt_asymm hm), if_neg hne, ih fun m' hm' => h m' (List.mem_cons_of_mem m hm')]
    rfl

/-- The members of an object stand in the order of their names, one for a name. -/
def Sorted (ms : Members) : Prop := ms.Pairwise fun m m' => m.1 < m'.1

theorem foldl_insert {ms ms' : Members} (h : Sorted (ms ++ ms')) :
    ms'.foldl (fun ms p => insert p.1 p.2 ms) ms = ms ++ ms' := by
  induction ms' generalizing ms with
  | nil => exact (List.append_nil ms).symm
  | cons m ms' ih =>
    -- all that is there already comes before the next member, which goes to the end
    have hlast : ∀ m' ∈ ms, m'.1 < m.1 := fun m' hm' =>
      (List.pairwise_append.mp h).2.2 m' hm' m List.mem_cons_self
    have hsplit : ms ++ m :: ms' = (ms ++ [m]) ++ ms' := List.append_cons ms m ms'
    rw [hsplit] at h ⊢
    rw [List.foldl_cons, insert_last hlast]
    exact ih h

theorem ofPairs_sorted {ms : Members} (h : Sorted ms) : ofPairs ms = ms := by
  have hall : Sorted ([] ++ ms) := h
  exact foldl_insert hall

end Members

/-! ## Reading what was written -/

namespace Reader

/-- What may follow a value in a container, or after it. -/
def Follows (rest : List Char) : Prop := ∀ c ∈ rest.head?, c = ',' ∨ c = ']' ∨ c = '}'

def Reads (item : List Char → Result Value) (v : Value) : Prop :=
  ∀ rest, Follows rest → item (v.chars ++ rest) = .ok (v, rest)

theorem skipBlank_cons {c : Char} (h : isBlank c = false) (cs : List Char) : skipBlank (c :: cs) = c :: cs :=
  List.dropWhile_cons_of_neg (by simp [h])

theorem reads_text (depth : Nat) (s : String) : Reads (value depth) (.text s) := by
  intro rest _
  have hnode : ∀ item, node item ((Value.text s).chars ++ rest) = .ok (.text s, rest) := by
    intro item
    have hchars : (Value.text s).chars ++ rest = '"' :: (s.toList.flatMap Quoted.escape ++ '"' :: rest) := by
      simp [Value.chars, Quoted.encode]
    rw [hchars, node, skipBlank_cons (by decide)]
    dsimp only
    rw [if_pos rfl, Quoted.decode_escaped]
    simp [Except.map]
  cases depth <;> exact hnode _

/-- The members after another one, each with a comma before it. -/
def laterChars : Members → List Char
  | [] => []
  | m :: ms => ',' :: memberChars (m :: ms)

theorem memberChars_cons (m : String × Value) (ms : Members) :
    memberChars (m :: ms) = Quoted.encode m.1 ++ ':' :: (m.2.chars ++ laterChars ms) := by
  obtain ⟨name, v⟩ := m
  cases ms <;> simp [memberChars, laterChars]

theorem follows_laterChars (ms : Members) (rest : List Char) : Follows (laterChars ms ++ '}' :: rest) := by
  intro c hc
  cases ms with
  | nil =>
    obtain rfl : '}' = c := by simpa [laterChars] using hc
    exact .inr (.inr rfl)
  | cons m ms =>
    obtain rfl : ',' = c := by simpa [laterChars] using hc
    exact .inl rfl

theorem name_chars (s : String) (rest : List Char) :
    name (s.toList.flatMap Quoted.escape ++ '"' :: ':' :: rest) = .ok (s, rest) := by
  unfold name
  rw [Quoted.decode_escaped]
  dsimp only
  rw [colon, skipBlank_cons (by decide), String.ofList_toList]
  rfl

/-- Where the next member starts, after a comma unless it is the first. -/
theorem nextName_chars (first : Bool) (s : String) (rest : List Char) :
    nextName first ((if first then [] else [',']) ++ (Quoted.encode s ++ rest)) =
      .ok (some (s.toList.flatMap Quoted.escape ++ '"' :: rest)) := by
  have hquote : skipBlank (Quoted.encode s ++ rest) = '"' :: (s.toList.flatMap Quoted.escape ++ '"' :: rest) := by
    unfold Quoted.encode
    rw [List.cons_append, skipBlank_cons (by decide)]
    simp
  unfold nextName
  cases first with
  | true =>
    simp only [if_true, List.nil_append]
    rw [hquote]
    simp
  | false =>
    simp only [Bool.false_eq_true, if_false, List.cons_append, List.nil_append]
    rw [skipBlank_cons (by decide)]
    simp [hquote]

theorem members_cons {item : List Char → Result Value} {m : String × Value} (h : Reads item m.2) (ms : Members)
    (fuel : Nat) (first : Bool) (rest : List Char) :
    members item (fuel + 1) first ((if first then [] else [',']) ++ (memberChars (m :: ms) ++ '}' :: rest)) =
      (members item fuel false (laterChars ms ++ '}' :: rest)).map fun r => (m :: r.1, r.2) := by
  have hchars : memberChars (m :: ms) ++ '}' :: rest =
      Quoted.encode m.1 ++ (':' :: (m.2.chars ++ (laterChars ms ++ '}' :: rest))) := by
    rw [memberChars_cons]
    simp
  rw [hchars, members.eq_def]
  dsimp only
  rw [nextName_chars]
  dsimp only
  rw [name_chars]
  dsimp only
  rw [h _ (follows_laterChars ms rest)]
  cases hlater : members item fuel false (laterChars ms ++ '}' :: rest) <;> simp [hlater, Except.map]

theorem members_nil (item : List Char → Result Value) (fuel : Nat) (first : Bool) (rest : List Char) :
    members item (fuel + 1) first ('}' :: rest) = .ok ([], rest) := by
  have hskip : skipBlank ('}' :: rest) = '}' :: rest := skipBlank_cons (by decide) rest
  rw [members.eq_def]
  dsimp only
  rw [nextName, hskip]
  rw [closing, hskip]
  rfl

theorem members_later {item : List Char → Result Value} {ms : Members} (h : ∀ m ∈ ms, Reads item m.2) {fuel : Nat}
    (hfuel : ms.length < fuel) (rest : List Char) :
    members item fuel false (laterChars ms ++ '}' :: rest) = .ok (ms, rest) := by
  induction ms generalizing fuel with
  | nil =>
    obtain ⟨fuel, rfl⟩ := Nat.exists_eq_add_of_lt hfuel
    exact members_nil item _ false rest
  | cons m ms ih =>
    rw [List.length_cons] at hfuel
    obtain ⟨fuel, rfl⟩ : ∃ n, fuel = n + 1 := ⟨fuel - 1, by omega⟩
    have hcons := members_cons (h m List.mem_cons_self) ms fuel false rest
    rw [ih (fun m' hm' => h m' (List.mem_cons_of_mem m hm')) (by omega)] at hcons
    exact hcons

theorem members_chars {item : List Char → Result Value} {ms : Members} (h : ∀ m ∈ ms, Reads item m.2) {fuel : Nat}
    (hfuel : ms.length < fuel) (rest : List Char) :
    members item fuel true (memberChars ms ++ '}' :: rest) = .ok (ms, rest) := by
  obtain ⟨fuel, rfl⟩ : ∃ n, fuel = n + 1 := ⟨fuel - 1, by omega⟩
  cases ms with
  | nil => exact members_nil item _ true rest
  | cons m ms =>
    rw [List.length_cons] at hfuel
    have hcons := members_cons (h m List.mem_cons_self) ms fuel true rest
    rw [members_later (fun m' hm' => h m' (List.mem_cons_of_mem m hm')) (by omega)] at hcons
    exact hcons

theorem length_memberChars (ms : Members) : ms.length ≤ (memberChars ms).length := by
  induction ms with
  | nil => exact Nat.le_refl 0
  | cons m ms ih =>
    have hlater : ms.length ≤ (laterChars ms).length := by
      cases ms with
      | nil => exact Nat.le_refl 0
      | cons m' ms => exact Nat.le_succ_of_le ih
    rw [memberChars_cons]
    simp only [List.length_append, List.length_cons]
    omega

/-- An object is read whose members stand in the order of their names. -/
theorem reads_object {depth : Nat} {ms : Members} (sorted : Members.Sorted ms)
    (h : ∀ m ∈ ms, Reads (value depth) m.2) : Reads (value (depth + 1)) (.object ms) := by
  intro rest _
  have hchars : (Value.object ms).chars ++ rest = '{' :: (memberChars ms ++ '}' :: rest) := by
    simp [Value.chars]
  have hfuel : ms.length < (memberChars ms ++ '}' :: rest).length + 1 := by
    have hlength := length_memberChars ms
    rw [List.length_append]
    omega
  rw [hchars, value, node, skipBlank_cons (by decide)]
  dsimp only
  rw [if_neg (by decide), if_neg (by decide), if_pos rfl, members_chars h hfuel]
  simp [Except.map, Members.ofPairs_sorted sorted]

end Reader

theorem Value.parse_compact {v : Value} (h : Reader.Reads (Reader.value Reader.maxDepth) v) :
    Value.parse v.compact = .ok v := by
  have hread := h [] (fun c hc => nomatch hc)
  rw [List.append_nil] at hread
  unfold Value.parse Value.compact Reader.document
  rw [String.toList_ofList, hread]
  rfl

end Parley.Json

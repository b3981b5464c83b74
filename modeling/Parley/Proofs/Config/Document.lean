import Mathlib.Data.List.Nodup
import Mathlib.Logic.Function.Basic
import Parley.Config.Document
import Parley.Proofs.Config.Settings
import Parley.Proofs.Json.Skip
import Parley.Proofs.Json.Tree

/-!
# Configurations are read as they were written

* `Draft.Lists`, `Draft.Lists.readMembers` : members that are read one after another, settings as values and others
  passed over, are taken as by `Draft.putMembers`; `parse_of_lists` : the same of whole texts;
* `Draft.Distinct`, `ofMembers_ok`, `ofMembers_error`, `ofMembers_filter` : what members make together;
* `objectText`, `serialize_eq` : objects with their values as they are written;
* `Variant`, `parse_variant` : the objects that stand for a configuration, in any order, without defaults, among others.
-/

namespace Parley.Config

open Json (Value IsText Ends Reader.value Reader.closing Reader.colon Reader.nextName Reader.innerDepth)

/-! ## Members one by one -/

theorem Setting.ofName?_eq_some_iff {name : String} {s : Setting} : ofName? name = some s ↔ name = s.name := by
  constructor
  · intro h
    unfold ofName? at h
    have hname := List.find?_some h
    exact (beq_iff_eq.mp hname).symm
  · rintro rfl
    exact ofName?_name s

namespace Draft

/-- The members in front of a text: settings are read as values, and other members passed over, whatever they are. -/
inductive Lists : Bool → List Char → List (String × Value) → List Char → Prop
  | done {first : Bool} {cs : List Char} (h : Reader.nextName first cs = .ok none) :
      Lists first cs [] (Reader.closing cs)
  | setting {first : Bool} {cs cs₁ cs₂ cs₃ cs₄ rest name : List Char} {s : Setting} {v : Value}
      {ms : List (String × Value)} (next : Reader.nextName first cs = .ok (some cs₁))
      (hname : Json.Quoted.decode cs₁ = .ok (name, cs₂)) (hcolon : Reader.colon cs₂ = .ok cs₃)
      (known : Setting.ofName? (String.ofList name) = some s)
      (read : Reader.value Reader.innerDepth cs₃ = .ok (v, cs₄)) (more : Lists false cs₄ ms rest) :
      Lists first cs ((String.ofList name, v) :: ms) rest
  | other {first : Bool} {cs cs₁ cs₂ cs₃ cs₄ rest name : List Char} {ms : List (String × Value)}
      (next : Reader.nextName first cs = .ok (some cs₁)) (hname : Json.Quoted.decode cs₁ = .ok (name, cs₂))
      (hcolon : Reader.colon cs₂ = .ok cs₃) (unknown : Setting.ofName? (String.ofList name) = none)
      (skip : Json.Skip.value cs₃ = .ok cs₄) (v : Value) (more : Lists false cs₄ ms rest) :
      Lists first cs ((String.ofList name, v) :: ms) rest

theorem Lists.readMembers {first : Bool} {cs rest : List Char} {ms : List (String × Value)}
    (h : Lists first cs ms rest) {fuel : Nat} (hfuel : ms.length < fuel) (d : Draft) :
    (d.readMembers fuel first cs).toOption = (d.putMembers ms).toOption.map fun d' => (d'.config, rest) := by
  induction h generalizing fuel d with
  | done h =>
    obtain ⟨fuel, rfl⟩ := Nat.exists_eq_add_of_lt hfuel
    rw [Draft.readMembers.eq_def]
    dsimp only
    rw [h]
    rfl
  | setting next hname hcolon known read more ih =>
    rw [List.length_cons] at hfuel
    obtain ⟨fuel, rfl⟩ : ∃ n, fuel = n + 1 := ⟨fuel - 1, by omega⟩
    rw [Draft.readMembers.eq_def, putMembers]
    dsimp only
    rw [next]
    dsimp only
    rw [hname]
    dsimp only
    rw [known]
    dsimp only
    split
    · rfl
    · rw [hcolon]
      dsimp only [Except.bind]
      rw [read]
      dsimp only
      split
      · rfl
      · next d' _ => exact ih (by omega) d'
  | other next hname hcolon unknown skip v more ih =>
    rw [List.length_cons] at hfuel
    obtain ⟨fuel, rfl⟩ : ∃ n, fuel = n + 1 := ⟨fuel - 1, by omega⟩
    rw [Draft.readMembers.eq_def, putMembers]
    dsimp only
    rw [next]
    dsimp only
    rw [hname]
    dsimp only
    rw [unknown]
    dsimp only
    rw [hcolon]
    dsimp only [Except.bind]
    rw [skip]
    exact ih (by omega) d

theorem lists_of_members {fuel : Nat} {first : Bool} {cs rest : List Char} {ms : List (String × Value)}
    (h : Json.Reader.members (Reader.value Reader.innerDepth) fuel first cs = .ok (ms, rest)) :
    Lists first cs ms rest ∧ ms.length < fuel := by
  induction fuel generalizing first cs ms with
  | zero => exact nomatch h
  | succ fuel ih =>
    obtain ⟨rfl, hnext, rfl⟩ | ⟨cs₁, name, cs₂, cs₃, v, cs₄, ms, hnext, hname, hcolon, hvalue, hmore, rfl⟩ :=
      Json.Reader.members_ok h
    · exact ⟨.done hnext, Nat.succ_pos fuel⟩
    · obtain ⟨hlists, hfuel⟩ := ih hmore
      refine ⟨?_, Nat.succ_lt_succ hfuel⟩
      cases hs : Setting.ofName? (String.ofList name) with
      | some s => exact .setting hnext hname hcolon hs hvalue hlists
      | none =>
        have hskip := Json.Skip.value_of_read hvalue (Json.Reader.ends_of_members hmore)
        exact .other hnext hname hcolon hs hskip v hlists

/-! ## What all of them make together -/

/-- No setting has two of these members. -/
def Distinct (ms : List (String × Value)) : Prop :=
  ms.Pairwise fun m m' => m.1 = m'.1 → Setting.ofName? m.1 = none

theorem distinct_of_nodup {ms : List (String × Value)} (h : (ms.map Prod.fst).Nodup) : Distinct ms :=
  (List.pairwise_map.mp h).imp fun hne heq => absurd heq hne

variable {ms : List (String × Value)}

theorem putMembers_other {name : String} (h : Setting.ofName? name = none) (v : Value) (d : Draft) :
    d.putMembers ((name, v) :: ms) = d.putMembers ms := by
  rw [putMembers, h]

theorem putMembers_setting {s : Setting} {v : Value} {w : Option String} {d : Draft} (fresh : s ∉ d.seen)
    (h : (Given.ofJson v).value? s = some w) :
    ∃ d' : Draft, d.putMembers ((s.name, v) :: ms) = d'.putMembers ms ∧ d'.seen = s :: d.seen ∧
      ∀ s', d'.config.get? s' = if s' = s then w else d.config.get? s' := by
  obtain ⟨c, hc, hget⟩ := set?_some (c := d.config) h
  refine ⟨⟨c, s :: d.seen⟩, ?_, rfl, hget⟩
  rw [putMembers, Setting.ofName?_name]
  dsimp only
  rw [if_neg (by simpa using fresh), put?, hc]
  rfl

theorem putMembers_refused {s : Setting} {v : Value} (h : (Given.ofJson v).value? s = none) (d : Draft) :
    ∃ e, d.putMembers ((s.name, v) :: ms) = .error e := by
  rw [putMembers, Setting.ofName?_name]
  dsimp only
  split
  · exact ⟨_, rfl⟩
  · rw [put?, set?_none h]
    exact ⟨_, rfl⟩

/-- Every setting becomes what its member gives, and stays as it was without one. -/
theorem putMembers_ok (distinct : Distinct ms)
    (takes : ∀ s v, (s.name, v) ∈ ms → ((Given.ofJson v).value? s).isSome = true) {d : Draft}
    (fresh : ∀ s ∈ d.seen, ∀ v, (s.name, v) ∉ ms) :
    ∃ d', d.putMembers ms = .ok d' ∧
      (∀ s v, (s.name, v) ∈ ms → d'.config.get? s = ((Given.ofJson v).value? s).join) ∧
      ∀ s, (∀ v, (s.name, v) ∉ ms) → d'.config.get? s = d.config.get? s := by
  induction ms generalizing d with
  | nil => exact ⟨d, rfl, fun s v h => absurd h List.not_mem_nil, fun s _ => rfl⟩
  | cons m ms ih =>
    obtain ⟨name, v⟩ := m
    obtain ⟨hfirst, hrest⟩ := List.pairwise_cons.mp distinct
    have htakes : ∀ s v, (s.name, v) ∈ ms → ((Given.ofJson v).value? s).isSome = true :=
      fun s v h => takes s v (List.mem_cons_of_mem _ h)
    cases hs : Setting.ofName? name with
    | none =>
      have hname : ∀ s v', (Setting.name s, v') ≠ (name, v) := by
        rintro s v' heq
        obtain ⟨rfl, -⟩ := Prod.mk.inj heq
        rw [Setting.ofName?_name] at hs
        exact nomatch hs
      obtain ⟨d', hd', hgiven, hkept⟩ := ih hrest htakes fun s hs v' hv' => fresh s hs v' (List.mem_cons_of_mem _ hv')
      refine ⟨d', ?_, fun s v' h => hgiven s v' ((List.mem_cons.mp h).resolve_left (hname s v')), fun s h => ?_⟩
      · rw [putMembers_other hs, hd']
      · exact hkept s fun v' hv' => h v' (List.mem_cons_of_mem _ hv')
    | some s =>
      obtain rfl := Setting.ofName?_eq_some_iff.mp hs
      obtain ⟨w, hw⟩ := Option.isSome_iff_exists.mp (takes s v List.mem_cons_self)
      have hothers : ∀ s' v', (Setting.name s', v') ∈ ms → s' ≠ s := by
        rintro s' v' hmem rfl
        have hnone := hfirst _ hmem rfl
        rw [Setting.ofName?_name] at hnone
        exact nomatch hnone
      obtain ⟨d₁, hput, hseen, hget⟩ := putMembers_setting (fun hmem => fresh s hmem v List.mem_cons_self) hw
      have hfresh : ∀ s' ∈ d₁.seen, ∀ v', (Setting.name s', v') ∉ ms := by
        intro s' hs' v' hmem
        rw [hseen] at hs'
        rcases List.mem_cons.mp hs' with rfl | hs'
        · exact hothers _ v' hmem rfl
        · exact fresh s' hs' v' (List.mem_cons_of_mem _ hmem)
      obtain ⟨d', hd', hgiven, hkept⟩ := ih hrest htakes hfresh
      refine ⟨d', by rw [hput, hd'], ?_, ?_⟩
      · intro s' v' hmem
        rcases List.mem_cons.mp hmem with heq | hmem
        · obtain ⟨hname, rfl⟩ := Prod.mk.inj heq
          obtain rfl : s' = s := Option.some.inj ((Setting.ofName?_name s').symm.trans (by rw [hname, hs]))
          rw [hkept s' fun v'' hv'' => hothers s' v'' hv'' rfl, hget, if_pos rfl, hw]
          rfl
        · exact hgiven s' v' hmem
      · intro s' hno
        have hne : s' ≠ s := by
          rintro rfl
          exact hno v List.mem_cons_self
        rw [hkept s' fun v' hv' => hno v' (List.mem_cons_of_mem _ hv'), hget, if_neg hne]

/-- A member that cannot be what its setting is spoils them all. -/
theorem putMembers_error {s : Setting} {v : Value} (hmem : (s.name, v) ∈ ms)
    (h : (Given.ofJson v).value? s = none) (d : Draft) : ∃ e, d.putMembers ms = .error e := by
  induction ms generalizing d with
  | nil => exact absurd hmem List.not_mem_nil
  | cons m ms ih =>
    obtain ⟨name, v'⟩ := m
    rcases List.mem_cons.mp hmem with heq | hlater
    · obtain ⟨rfl, rfl⟩ := Prod.mk.inj heq
      exact putMembers_refused h d
    · rw [putMembers]
      cases Setting.ofName? name with
      | none => exact ih hlater d
      | some s' =>
        dsimp only
        split
        · exact ⟨_, rfl⟩
        · split
          · exact ⟨_, rfl⟩
          · exact ih hlater _

end Draft

theorem ofMembers_ok {ms : List (String × Value)} (distinct : Draft.Distinct ms)
    (takes : ∀ s v, (Setting.name s, v) ∈ ms → ((Given.ofJson v).value? s).isSome = true) :
    ∃ c, ofMembers ms = .ok c ∧
      (∀ s v, (Setting.name s, v) ∈ ms → c.get? s = ((Given.ofJson v).value? s).join) ∧
      ∀ s, (∀ v, (Setting.name s, v) ∉ ms) → c.get? s = standard.get? s := by
  obtain ⟨d, hd, hgiven, hleft⟩ :=
    Draft.putMembers_ok distinct takes (d := {}) fun s hs => absurd hs List.not_mem_nil
  exact ⟨d.config, by rw [ofMembers, hd]; rfl, hgiven, hleft⟩

theorem ofMembers_error {ms : List (String × Value)} {s : Setting} {v : Value} (hmem : (s.name, v) ∈ ms)
    (h : (Given.ofJson v).value? s = none) : ∃ e, ofMembers ms = .error e := by
  obtain ⟨e, he⟩ := Draft.putMembers_error hmem h {}
  exact ⟨e, by rw [ofMembers, he]; rfl⟩

theorem ofMembers_filter {ms : List (String × Value)} (keep : String → Bool)
    (h : ∀ s, keep (Setting.name s) = true) : ofMembers (ms.filter fun m => keep m.1) = ofMembers ms := by
  have hput : ∀ d : Draft, d.putMembers (ms.filter fun m => keep m.1) = d.putMembers ms := by
    induction ms with
    | nil => exact fun d => rfl
    | cons m ms ih =>
      obtain ⟨name, v⟩ := m
      intro d
      cases hs : Setting.ofName? name with
      | none =>
        rw [List.filter_cons, Draft.putMembers_other hs]
        split
        · rw [Draft.putMembers_other hs]
          exact ih d
        · exact ih d
      | some s =>
        obtain rfl := Setting.ofName?_eq_some_iff.mp hs
        have hkeep : ((s.name, v) :: ms).filter (fun m => keep m.1) =
            (s.name, v) :: ms.filter fun m => keep m.1 := List.filter_cons_of_pos (h s)
        rw [hkeep, Draft.putMembers, Draft.putMembers, hs]
        simp only [ih]
  rw [ofMembers, ofMembers, hput]

/-! ## Objects as text -/

def spelled (p : String × List Char) : List Char := Json.Quoted.encode p.1 ++ ':' :: p.2

def objectText (ps : List (String × List Char)) : List Char := '{' :: ([','].intercalate (ps.map spelled) ++ ['}'])

def laterText (ps : List (String × List Char)) : List Char := ps.flatMap fun p => ',' :: spelled p

theorem intercalate_spelled (p : String × List Char) (ps : List (String × List Char)) :
    [','].intercalate ((p :: ps).map spelled) = spelled p ++ laterText ps := by
  induction ps generalizing p with
  | nil => simp [laterText]
  | cons p' ps ih =>
    rw [List.map_cons, List.map_cons, List.intercalate_cons_cons, ← List.map_cons, ih]
    simp [laterText]

theorem follows_laterText (ps : List (String × List Char)) (rest : List Char) :
    Json.Reader.Follows (laterText ps ++ '}' :: rest) := by
  intro c hc
  cases ps with
  | nil => exact .inr (.inr (Option.some.inj hc).symm)
  | cons p ps => exact .inl (Option.some.inj hc).symm

/-- How a configuration is written as a member. -/
def spelling (m : String × Value) : String × List Char := (m.1, m.2.chars)

theorem serialize_eq (c : Config) : c.serialize = String.ofList (objectText (c.members.map spelling)) := by
  have hchars : ∀ ms : List (String × Value),
      Json.memberChars ms = [','].intercalate ((ms.map spelling).map spelled) := by
    intro ms
    induction ms with
    | nil => rfl
    | cons m ms ih =>
      rw [Json.Reader.memberChars_cons, List.map_cons, intercalate_spelled]
      cases ms with
      | nil => simp [spelled, spelling, laterText, Json.Reader.laterChars]
      | cons m' ms =>
        rw [Json.Reader.laterChars, ih, List.map_cons, intercalate_spelled]
        simp [spelled, spelling, laterText]
  rw [serialize, hchars]
  rfl

/-- What a member of this name says in an object that is written for `c`. -/
def reading (c : Config) (p : String × List Char) : String × Value :=
  (p.1, ((Setting.ofName? p.1).map c.value).getD .null)

theorem reads_value (c : Config) (s : Setting) : Json.Reader.Reads (Reader.value Reader.innerDepth) (c.value s) := by
  cases s with
  | baseUrl =>
    cases hurl : c.baseUrl with
    | none =>
      rw [value, hurl]
      exact Json.Reader.reads_null _
    | some url =>
      rw [value, hurl]
      exact Json.Reader.reads_text _ url
  | _ => exact Json.Reader.reads_text _ _

theorem Draft.lists_spelled {c : Config} {ps : List (String × List Char)}
    (settings : ∀ p ∈ ps, ∀ s, Setting.ofName? p.1 = some s → p.2 = (c.value s).chars)
    (others : ∀ p ∈ ps, Setting.ofName? p.1 = none → IsText p.2) (first : Bool) (rest : List Char) :
    Draft.Lists first ((if first then [','].intercalate (ps.map spelled) else laterText ps) ++ '}' :: rest)
      (ps.map c.reading) rest := by
  induction ps generalizing first with
  | nil =>
    have hempty : (if first then [','].intercalate (([] : List (String × List Char)).map spelled) else laterText []) =
        [] := by
      cases first <;> rfl
    rw [hempty]
    have hskip : Json.Reader.skipBlank ('}' :: rest) = '}' :: rest := Json.Reader.skipBlank_cons (by decide) rest
    have hnext : Reader.nextName first ('}' :: rest) = .ok none := by
      rw [Reader.nextName, hskip]
      rfl
    have hclosing : Reader.closing ('}' :: rest) = rest := by
      rw [Reader.closing, hskip, List.tail_cons]
    have hdone := Draft.Lists.done hnext
    rwa [hclosing] at hdone
  | cons p ps ih =>
    have hrest := ih (fun p hp => settings p (List.mem_cons_of_mem _ hp))
      (fun p hp => others p (List.mem_cons_of_mem _ hp)) false
    rw [if_neg Bool.false_ne_true] at hrest
    have hfollows := follows_laterText ps rest
    -- a comma, unless this is the first member, its name, a colon, its value, and the members after it
    have htext : (if first then [','].intercalate ((p :: ps).map spelled) else laterText (p :: ps)) ++ '}' :: rest =
        (if first then [] else [',']) ++
          (Json.Quoted.encode p.1 ++ ':' :: (p.2 ++ (laterText ps ++ '}' :: rest))) := by
      rw [intercalate_spelled]
      cases first <;> simp [laterText, spelled]
    have hcolon : Reader.colon (':' :: (p.2 ++ (laterText ps ++ '}' :: rest))) =
        .ok (p.2 ++ (laterText ps ++ '}' :: rest)) := by
      rw [Reader.colon, Json.Reader.skipBlank_cons (by decide)]
      rfl
    have hname : String.ofList p.1.toList = p.1 := String.ofList_toList
    have hnext := Json.Reader.nextName_chars first p.1 (':' :: (p.2 ++ (laterText ps ++ '}' :: rest)))
    have hdecode := Json.Quoted.decode_escaped p.1.toList (':' :: (p.2 ++ (laterText ps ++ '}' :: rest)))
    rw [htext, List.map_cons, reading]
    cases hs : Setting.ofName? p.1 with
    | some s =>
      have hread : Reader.value Reader.innerDepth (p.2 ++ (laterText ps ++ '}' :: rest)) =
          .ok (c.value s, laterText ps ++ '}' :: rest) := by
        rw [settings p List.mem_cons_self s hs]
        exact reads_value c s _ hfollows
      have hlists := Draft.Lists.setting hnext hdecode hcolon (by rw [hname, hs]) hread hrest
      rwa [hname] at hlists
    | none =>
      have hskip := Json.Skip.value_of_spans ((others p List.mem_cons_self hs).spans hfollows.ends)
      have hlists := Draft.Lists.other hnext hdecode hcolon (by rw [hname, hs]) hskip .null hrest
      rwa [hname] at hlists

theorem length_le_laterText (ps : List (String × List Char)) : ps.length ≤ (laterText ps).length := by
  induction ps with
  | nil => exact Nat.le_refl 0
  | cons p ps ih =>
    have hcons : laterText (p :: ps) = ',' :: (spelled p ++ laterText ps) := rfl
    rw [hcons, List.length_cons, List.length_cons, List.length_append]
    omega

theorem length_lt_objectText (ps : List (String × List Char)) :
    ps.length < ([','].intercalate (ps.map spelled) ++ ['}']).length + 1 := by
  cases ps with
  | nil => exact Nat.succ_pos _
  | cons p ps =>
    have hlater := length_le_laterText ps
    rw [intercalate_spelled, List.length_cons]
    simp only [List.length_append, List.length_singleton]
    omega

/-! ## Reading what was written -/

/-- A text whose members are listed says what they say together. -/
theorem parse_of_lists {raw : String} {inner rest : List Char} {ms : List (String × Value)}
    (start : Json.Reader.skipBlank raw.toList = '{' :: inner) (h : Draft.Lists true inner ms rest)
    (hfuel : ms.length < inner.length + 1) (hend : Json.Reader.finish rest = .ok ()) (c : Config) :
    parse raw = .ok c ↔ ofMembers ms = .ok c := by
  have hread : (read raw.toList).toOption = (ofMembers ms).toOption.map fun c => (c, rest) := by
    have hobject : read raw.toList = Draft.readMembers (inner.length + 1) true {} inner := by
      rw [read, start]
      rfl
    rw [hobject, h.readMembers hfuel, ofMembers]
    cases Draft.putMembers {} ms <;> rfl
  have hdocument : document raw.toList =
      (read raw.toList).bind fun p => (Json.Reader.finish p.2).map fun _ => p.1 := by
    rw [document]
    cases read raw.toList <;> rfl
  rw [parse, Json.Reader.mapError_eq_ok_iff, hdocument]
  exact Json.Reader.whole_eq_ok_iff hread hend c

theorem value?_value (c : Config) (s : Setting) : (Given.ofJson (c.value s)).value? s = some (c.get? s) := by
  cases s with
  | baseUrl =>
    rw [value, get?]
    cases c.baseUrl <;> rfl
  | _ => rfl

theorem mem_reading {c : Config} {ps : List (String × List Char)} {s : Setting} {v : Value} :
    (s.name, v) ∈ ps.map c.reading ↔ v = c.value s ∧ ∃ p ∈ ps, p.1 = s.name := by
  constructor
  · intro h
    obtain ⟨p, hp, heq⟩ := List.mem_map.mp h
    obtain ⟨hname, hvalue⟩ := Prod.mk.inj heq
    rw [hname, Setting.ofName?_name] at hvalue
    exact ⟨hvalue.symm, p, hp, hname⟩
  · rintro ⟨rfl, p, hp, hname⟩
    refine List.mem_map.mpr ⟨p, hp, ?_⟩
    rw [reading, hname, Setting.ofName?_name]
    rfl

/-- An object says `c` when each setting is written as `c` has it, or is not written and has its default. -/
theorem parse_spelled {c : Config} {ps : List (String × List Char)}
    (settings : ∀ p ∈ ps, ∀ s, Setting.ofName? p.1 = some s → p.2 = (c.value s).chars)
    (others : ∀ p ∈ ps, Setting.ofName? p.1 = none → IsText p.2)
    (distinct : ps.Pairwise fun p q => p.1 = q.1 → Setting.ofName? p.1 = none)
    (missing : ∀ s, (∀ p ∈ ps, p.1 ≠ Setting.name s) → c.get? s = standard.get? s) :
    parse (String.ofList (objectText ps)) = .ok c := by
  have hlists := Draft.lists_spelled settings others true []
  rw [if_pos rfl] at hlists
  have hstart : Json.Reader.skipBlank (String.ofList (objectText ps)).toList = objectText ps := by
    rw [String.toList_ofList]
    exact Json.Reader.skipBlank_cons (by decide) _
  have hfuel : (ps.map c.reading).length < ([','].intercalate (ps.map spelled) ++ ['}']).length + 1 := by
    rw [List.length_map]
    exact length_lt_objectText ps
  have htakes : ∀ s v, (Setting.name s, v) ∈ ps.map c.reading → ((Given.ofJson v).value? s).isSome = true := by
    intro s v hv
    obtain ⟨rfl, -⟩ := mem_reading.mp hv
    rw [value?_value]
    rfl
  obtain ⟨c', hc', hgiven, hleft⟩ := ofMembers_ok (List.pairwise_map.mpr distinct) htakes
  obtain rfl : c' = c := by
    refine ext_get? fun s => ?_
    by_cases hs : ∃ p ∈ ps, p.1 = s.name
    · rw [hgiven s (c.value s) (mem_reading.mpr ⟨rfl, hs⟩), value?_value]
      rfl
    · rw [hleft s fun v hv => hs (mem_reading.mp hv).2, missing s fun p hp hname => hs ⟨p, hp, hname⟩]
  exact (parse_of_lists hstart hlists hfuel rfl c').mpr hc'

/-- The members of an object that stands for `c`, in any order: those of `c` but for some that say the default, and
others of any names that are no setting's. -/
def Variant (c : Config) (ps : List (String × List Char)) : Prop :=
  ∃ (kept : List (String × Value)) (others : List (String × List Char)),
    ps.Perm (kept.map spelling ++ others) ∧ kept.Sublist c.members ∧
      (∀ m ∈ c.members, m ∈ kept ∨ m ∈ standard.members) ∧
      ∀ p ∈ others, Setting.ofName? p.1 = none ∧ IsText p.2

theorem mem_members {c : Config} {m : String × Value} : m ∈ c.members ↔ ∃ s, m = (Setting.name s, c.value s) := by
  constructor
  · intro h
    obtain ⟨s, -, rfl⟩ := List.mem_map.mp h
    exact ⟨s, rfl⟩
  · rintro ⟨s, rfl⟩
    exact List.mem_map.mpr ⟨s, by cases s <;> decide, rfl⟩

theorem nodup_members (c : Config) : (c.members.map Prod.fst).Nodup := by
  have hnames : c.members.map Prod.fst = Setting.all.map Setting.name := by simp [members]
  rw [hnames]
  decide

theorem parse_variant {c : Config} {ps : List (String × List Char)} (h : Variant c ps) :
    parse (String.ofList (objectText ps)) = .ok c := by
  obtain ⟨kept, others, hperm, hsub, hdefault, hothers⟩ := h
  have hmem : ∀ p, p ∈ ps ↔ (∃ m ∈ kept, spelling m = p) ∨ p ∈ others := by
    intro p
    rw [hperm.mem_iff, List.mem_append, List.mem_map]
  have hkept : ∀ m ∈ kept, ∃ s, m = (Setting.name s, c.value s) := fun m hm => mem_members.mp (hsub.subset hm)
  refine parse_spelled ?_ ?_ ?_ ?_
  · intro p hp s hs
    obtain ⟨m, hm, rfl⟩ | hp := (hmem p).mp hp
    · obtain ⟨s', rfl⟩ := hkept m hm
      obtain rfl : s' = s := Option.some.inj ((Setting.ofName?_name s').symm.trans hs)
      rfl
    · exact nomatch (hothers p hp).1.symm.trans hs
  · intro p hp hs
    obtain ⟨m, hm, rfl⟩ | hp := (hmem p).mp hp
    · obtain ⟨s', rfl⟩ := hkept m hm
      exact nomatch (Setting.ofName?_name s').symm.trans hs
    · exact (hothers p hp).2
  · have hnames : (kept.map Prod.fst).Nodup := (nodup_members c).sublist (hsub.map Prod.fst)
    refine (List.Perm.pairwise_iff (fun h heq => heq ▸ h heq.symm) hperm).mpr ?_
    refine List.pairwise_append.mpr ⟨?_, ?_, ?_⟩
    · rw [List.pairwise_map]
      exact (List.pairwise_map.mp hnames).imp fun hne heq => absurd heq hne
    · exact List.pairwise_iff_forall_sublist.mpr fun hpair _ => (hothers _ (hpair.subset List.mem_cons_self)).1
    · exact fun p _ q hq heq => heq ▸ (hothers q hq).1
  · intro s hs
    rcases hdefault _ (mem_members.mpr ⟨s, rfl⟩) with hm | hm
    · exact absurd rfl (hs _ ((hmem _).mpr (.inl ⟨_, hm, rfl⟩)))
    · obtain ⟨s', heq⟩ := mem_members.mp hm
      obtain ⟨hname, hvalue⟩ := Prod.mk.inj heq
      obtain rfl : s = s' :=
        Option.some.inj ((Setting.ofName?_name s).symm.trans (hname ▸ Setting.ofName?_name s'))
      have hgives := value?_value c s
      rw [hvalue, value?_value] at hgives
      exact (Option.some.inj hgives).symm

theorem variant_members (c : Config) : Variant c (c.members.map spelling) :=
  ⟨c.members, [], by rw [List.append_nil], List.Sublist.refl _, fun _ hm => .inl hm,
    fun p hp => absurd hp List.not_mem_nil⟩

theorem parse_serialize (c : Config) : parse c.serialize = .ok c := by
  rw [serialize_eq]
  exact parse_variant (variant_members c)

/-- Every configuration is read as it was written, with its members in any order, without those that say the default,
and among others of any names. So no two are written alike. -/
theorem documents_read_back :
    (∀ c : Config, parse c.serialize = .ok c) ∧
      (∀ (c : Config) (ps : List (String × List Char)), Variant c ps → parse (String.ofList (objectText ps)) = .ok c) ∧
      Function.Injective serialize := by
  refine ⟨parse_serialize, fun c ps h => parse_variant h, fun c c' h => ?_⟩
  have hread := parse_serialize c
  rw [h, parse_serialize] at hread
  exact (Except.ok.inj hread).symm

/-- Settings that look like other values. -/
def lookalikes : Config where
  endpoint := "42"
  baseUrl := some ""
  agentName := "true"
  sessionKey := "null"
  userLabel := "\"\\é"

/-- The same among two members that are no settings, one of them a number that no double is near. -/
def scattered : List (String × List Char) :=
  [("weight", "[1e999]".toList), ("session_key", "\"null\"".toList), ("base_url", "\"\"".toList),
    ("user_label", "\"\\\"\\\\é\"".toList), ("Endpoint", "{}".toList), ("endpoint", "\"42\"".toList),
    ("agent_name", "\"true\"".toList)]

theorem variant_scattered : Variant lookalikes scattered := by
  refine ⟨lookalikes.members.take 5, [("weight", "[1e999]".toList), ("Endpoint", "{}".toList)], by decide,
    List.take_sublist 5 _, ?_, ?_⟩
  · intro m hm
    rw [← List.take_append_drop 5 lookalikes.members] at hm
    have hlast : lookalikes.members.drop 5 = standard.members.drop 5 := rfl
    exact (List.mem_append.mp hm).imp_right fun hm => List.mem_of_mem_drop (hlast ▸ hm)
  · have hnines : ∀ c ∈ ['9', '9'], Json.Numeral.isDigit c = true :=
      List.forall_mem_cons.mpr ⟨rfl, List.forall_mem_singleton.mpr rfl⟩
    have hwhole : Json.Numeral.Whole ['1'] := .digits rfl (by decide) fun c hc => absurd hc List.not_mem_nil
    have hexponent : Json.Numeral.Exponent ('e' :: ([] ++ ['9', '9', '9'])) :=
      .letter (.inl rfl) (.inl rfl) rfl hnines
    have hone : Json.Numeral.Unsigned "1e999".toList := .mk hwhole .none hexponent
    have hweight : IsText "[1e999]".toList :=
      .array (.itemsFirst (.positive hone (Json.ends_cons (by decide) [])) (.itemsEnd false []))
    have hempty : IsText "{}".toList := .object (.membersEnd true [])
    intro p hp
    rcases List.mem_pair.mp hp with rfl | rfl
    · exact ⟨by decide, hweight⟩
    · exact ⟨by decide, hempty⟩

theorem documents_read_back_scattered :
    Variant lookalikes scattered ∧ parse (String.ofList (objectText scattered)) = .ok lookalikes :=
  ⟨variant_scattered, documents_read_back.2.1 lookalikes scattered variant_scattered⟩

end Parley.Config

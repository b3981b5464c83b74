import Mathlib
import Parley.Exchange.Reply
import Parley.Page.Options
import Parley.Proofs.Config.Document
import Parley.Proofs.Config.Layers

/-!
# Options take the settings as a configuration does

* `Draft.readMembers_of_members` : members that are read one after another are taken as if all had been read before;
* `Draft.putMembers_ok`, `ofPairs_eq` : element names beside settings;
* `memberNames`, `Unambiguous` : objects in which no name stands twice;
* `Unambiguous.config_ok_iff`, `Unambiguous.options_ok_iff` : when they are a configuration, and when options;
* `settings_beside_ids` : options have the settings of the configuration, and neither settings nor ids depend on the
  others.
-/

namespace Parley.Page

open Json (Members Value Reader.innerDepth)
open Config (Setting Winner)

namespace Options

/-! ## Members one by one -/

namespace ElementName

theorem ofName?_name (e : ElementName) : ofName? e.name = some e := by
  cases e <;> decide

theorem ofName?_eq_some_iff {name : String} {e : ElementName} : ofName? name = some e ↔ name = e.name := by
  constructor
  · intro h
    unfold ofName? at h
    split_ifs at h with hinput htranscript
    · rw [← Option.some.inj h, hinput]
    · rw [← Option.some.inj h, htranscript]
  · rintro rfl
    exact ofName?_name e

theorem ofName?_setting (s : Setting) : ofName? s.name = none := by
  cases s <;> decide

end ElementName

theorem isSome_text?_iff {v : Value} : v.text?.isSome = true ↔ ∃ id, v = .text id := by
  cases v <;> simp [Value.text?]

theorem string_of_node {item : Option (List Char → Json.Reader.Result Value)} {cs rest : List Char} {v : Value}
    (h : Json.Reader.node item cs = .ok (v, rest)) :
    (Json.Reader.string cs).toOption = v.text?.map fun id => (id, rest) := by
  unfold Json.Reader.node at h
  unfold Json.Reader.string
  split at h
  · exact nomatch h
  · next c inner hcs =>
    rw [hcs]
    by_cases hc : c = '"'
    · subst hc
      rw [if_pos rfl] at h
      obtain ⟨r, hdecode, hr⟩ := Json.Reader.of_map_ok h
      obtain ⟨rfl, rfl⟩ := Prod.mk.inj hr
      show ((Json.Quoted.decode inner).map fun r => (String.ofList r.1, r.2)).toOption = _
      rw [hdecode]
      rfl
    · rw [if_neg hc] at h
      have hkind : v.text? = none := by
        repeat' split at h
        all_goals first
          | contradiction
          | (obtain ⟨r, -, hr⟩ := Json.Reader.of_map_ok h
             obtain ⟨rfl, -⟩ := Prod.mk.inj hr
             rfl)
      rw [hkind]
      split
      · next heq => exact absurd (List.cons.inj heq).1 hc
      · rfl

theorem string_of_value {depth : Nat} {cs rest : List Char} {v : Value}
    (h : Json.Reader.value depth cs = .ok (v, rest)) :
    (Json.Reader.string cs).toOption = v.text?.map fun id => (id, rest) := by
  cases depth <;> exact string_of_node h

namespace Draft

variable {ps : List (String × Value)}

theorem readMembers_of_members {fuel : Nat} {first : Bool} {cs rest : List Char}
    (h : Json.Reader.members (Json.Reader.value Reader.innerDepth) fuel first cs = .ok (ps, rest)) (d : Draft) :
    (d.readMembers fuel first cs).toOption = ((d.putMembers ps).bind finish).toOption.map fun o => (o, rest) := by
  induction fuel generalizing first cs ps d with
  | zero => exact nomatch h
  | succ fuel ih =>
    obtain ⟨rfl, hnext, rfl⟩ | ⟨cs₁, name, cs₂, cs₃, v, cs₄, ps, hnext, hname, hcolon, hvalue, hmore, rfl⟩ :=
      Json.Reader.members_ok h
    · rw [readMembers.eq_def, putMembers]
      dsimp only
      rw [hnext]
      dsimp only [Except.bind]
      cases d.finish <;> rfl
    · rw [readMembers.eq_def, putMembers]
      dsimp only
      rw [hnext]
      dsimp only
      rw [hname]
      dsimp only
      cases ElementName.ofName? (String.ofList name) with
      | none =>
        rw [hcolon]
        dsimp only [Except.bind]
        rw [hvalue]
        exact ih hmore _
      | some e =>
        dsimp only
        split
        · rfl
        · rw [hcolon]
          dsimp only [Except.bind]
          have hstring := string_of_value hvalue
          cases v with
          | text id =>
            cases hr : Json.Reader.string cs₃ with
            | error f => exact nomatch hr ▸ hstring
            | ok r =>
              rw [hr] at hstring
              obtain rfl := Option.some.inj hstring
              exact ih hmore _
          | _ =>
            cases hr : Json.Reader.string cs₃ with
            | error f => rfl
            | ok r => exact nomatch hr ▸ hstring

theorem get?_put (d : Draft) (id : String) (e e' : ElementName) :
    (d.put id e).get? e' = if e' = e then some id else d.get? e' := by
  cases e <;> cases e' <;> rfl

theorem others_put (d : Draft) (id : String) (e : ElementName) : (d.put id e).others = d.others := by
  cases e <;> rfl

theorem get?_others (d : Draft) (others : List (String × Value)) (e : ElementName) :
    { d with others }.get? e = d.get? e := by
  cases e <;> rfl

theorem putMembers_other {name : String} (h : ElementName.ofName? name = none) (v : Value) (d : Draft) :
    d.putMembers ((name, v) :: ps) = { d with others := (name, v) :: d.others }.putMembers ps := by
  rw [putMembers, h]

theorem putMembers_element {e : ElementName} {d : Draft} (fresh : d.get? e = none) (id : String) :
    d.putMembers ((e.name, .text id) :: ps) = (d.put id e).putMembers ps := by
  rw [putMembers, ElementName.ofName?_name]
  dsimp only
  rw [if_neg (by simp [fresh])]

theorem putMembers_refused {e : ElementName} {v : Value} (h : v.text? = none) (d : Draft) :
    ∃ complaint, d.putMembers ((e.name, v) :: ps) = .error complaint := by
  rw [putMembers, ElementName.ofName?_name]
  dsimp only
  split
  · exact ⟨_, rfl⟩
  · cases v with
    | text id => exact nomatch h
    | _ => exact ⟨_, rfl⟩

/-- The members that name no element. -/
def unnamed (ps : List (String × Value)) : List (String × Value) :=
  ps.filter fun p => (ElementName.ofName? p.1).isNone

/-- Every element is named as its member says, and all other members are left for the settings. -/
theorem putMembers_ok (distinct : (ps.map Prod.fst).Nodup)
    (takes : ∀ e v, (ElementName.name e, v) ∈ ps → v.text?.isSome = true) {d : Draft}
    (fresh : ∀ e v, (ElementName.name e, v) ∈ ps → d.get? e = none) :
    ∃ d', d.putMembers ps = .ok d' ∧ (∀ e v, (ElementName.name e, v) ∈ ps → d'.get? e = v.text?) ∧
      (∀ e, (∀ v, (ElementName.name e, v) ∉ ps) → d'.get? e = d.get? e) ∧
      d'.others.reverse = d.others.reverse ++ unnamed ps := by
  induction ps generalizing d with
  | nil => exact ⟨d, rfl, fun e v h => absurd h List.not_mem_nil, fun e _ => rfl, (List.append_nil _).symm⟩
  | cons p ps ih =>
    obtain ⟨name, v⟩ := p
    obtain ⟨hfirst, hrest⟩ := List.nodup_cons.mp distinct
    have htakes : ∀ e v, (ElementName.name e, v) ∈ ps → v.text?.isSome = true :=
      fun e v h => takes e v (List.mem_cons_of_mem _ h)
    cases he : ElementName.ofName? name with
    | none =>
      have hname : ∀ e v', (ElementName.name e, v') ≠ (name, v) := by
        rintro e v' heq
        obtain ⟨rfl, -⟩ := Prod.mk.inj heq
        rw [ElementName.ofName?_name] at he
        exact nomatch he
      have hkeep : unnamed ((name, v) :: ps) = (name, v) :: unnamed ps := by simp [unnamed, he]
      have hfresh : ∀ e v', (ElementName.name e, v') ∈ ps →
          { d with others := (name, v) :: d.others }.get? e = none := by
        intro e v' hv'
        rw [get?_others]
        exact fresh e v' (List.mem_cons_of_mem _ hv')
      obtain ⟨d', hd', hgiven, hleft, hothers⟩ := ih hrest htakes hfresh
      refine ⟨d', by rw [putMembers_other he, hd'], ?_, ?_, ?_⟩
      · exact fun e v' h => hgiven e v' ((List.mem_cons.mp h).resolve_left (hname e v'))
      · intro e h
        rw [hleft e fun v' hv' => h v' (List.mem_cons_of_mem _ hv'), get?_others]
      · rw [hothers, hkeep, List.reverse_cons, List.append_assoc, List.singleton_append]
    | some e =>
      obtain rfl := ElementName.ofName?_eq_some_iff.mp he
      obtain ⟨id, rfl⟩ := isSome_text?_iff.mp (takes e v List.mem_cons_self)
      have hothers : ∀ e' v', (ElementName.name e', v') ∈ ps → e' ≠ e := by
        rintro e' v' hmem rfl
        exact hfirst (List.mem_map.mpr ⟨_, hmem, rfl⟩)
      have hdrop : unnamed ((e.name, .text id) :: ps) = unnamed ps := by simp [unnamed, he]
      have hfresh : ∀ e' v', (ElementName.name e', v') ∈ ps → (d.put id e).get? e' = none := by
        intro e' v' hv'
        rw [get?_put, if_neg (hothers e' v' hv')]
        exact fresh e' v' (List.mem_cons_of_mem _ hv')
      obtain ⟨d', hd', hgiven, hleft, hrest⟩ := ih hrest htakes hfresh
      refine ⟨d', by rw [putMembers_element (fresh e _ List.mem_cons_self), hd'], ?_, ?_, ?_⟩
      · intro e' v' hmem
        rcases List.mem_cons.mp hmem with heq | hmem
        · obtain ⟨hname, rfl⟩ := Prod.mk.inj heq
          obtain rfl : e' = e := Option.some.inj ((ElementName.ofName?_name e').symm.trans (by rw [hname, he]))
          rw [hleft e' fun v'' hv'' => hothers e' v'' hv'' rfl, get?_put, if_pos rfl]
          rfl
        · exact hgiven e' v' hmem
      · intro e' hno
        have hne : e' ≠ e := by
          rintro rfl
          exact hno _ List.mem_cons_self
        rw [hleft e' fun v' hv' => hno v' (List.mem_cons_of_mem _ hv'), get?_put, if_neg hne]
      · rw [hrest, hdrop, others_put]

theorem putMembers_error {e : ElementName} {v : Value} (hmem : (e.name, v) ∈ ps) (h : v.text? = none) (d : Draft) :
    ∃ complaint, d.putMembers ps = .error complaint := by
  induction ps generalizing d with
  | nil => exact absurd hmem List.not_mem_nil
  | cons p ps ih =>
    obtain ⟨name, v'⟩ := p
    rcases List.mem_cons.mp hmem with heq | hlater
    · obtain ⟨rfl, rfl⟩ := Prod.mk.inj heq
      exact putMembers_refused h d
    · rw [putMembers]
      cases ElementName.ofName? name with
      | none => exact ih hlater _
      | some e' =>
        dsimp only
        split
        · exact ⟨_, rfl⟩
        · cases v' with
          | text id => exact ih hlater _
          | _ => exact ⟨_, rfl⟩

end Draft

/-! ## Objects with names of their own -/

/-- The names of the members of the object in a text, as they stand there. -/
def memberNames (raw : String) : List String :=
  match Json.Reader.skipBlank raw.toList with
  | '{' :: inner =>
    match Json.Reader.members (Json.Reader.value Reader.innerDepth) (inner.length + 1) true inner with
    | .ok (ps, _) => ps.map Prod.fst
    | .error _ => []
  | _ => []

/-- The text is an object, in which no name stands twice. -/
structure Unambiguous (raw : String) (ms : Members) : Prop where
  accepted : Exchange.decodeBody raw = .ok (.object ms)
  distinct : (memberNames raw).Nodup

def id (o : Options) : ElementName → String
  | .input => o.inputId
  | .transcript => o.transcriptId

def ofPairs (ps : List (String × Value)) : Except String Options := (Draft.putMembers {} ps).bind Draft.finish

/-- Element names stand beside the settings: without them, the same is a configuration. -/
theorem ofPairs_eq {ps : List (String × Value)} (distinct : (ps.map Prod.fst).Nodup)
    (takes : ∀ e v, (ElementName.name e, v) ∈ ps → v.text?.isSome = true) :
    ∃ d : Draft, ofPairs ps = (Config.ofMembers ps).map (fun config =>
        ⟨d.input?.getD standard.inputId, d.transcript?.getD standard.transcriptId, config⟩) ∧
      (∀ e v, (ElementName.name e, v) ∈ ps → d.get? e = v.text?) ∧
      ∀ e, (∀ v, (ElementName.name e, v) ∉ ps) → d.get? e = none := by
  obtain ⟨d, hd, hgiven, hleft, hothers⟩ := Draft.putMembers_ok distinct takes (d := {}) fun e v _ => by cases e <;> rfl
  refine ⟨d, ?_, hgiven, fun e h => (hleft e h).trans (by cases e <;> rfl)⟩
  have hsettings : Config.ofMembers d.others.reverse = Config.ofMembers ps := by
    have hkeep : ∀ s, (ElementName.ofName? (Setting.name s)).isNone = true := by
      intro s
      rw [ElementName.ofName?_setting]
      rfl
    rw [hothers]
    exact Config.ofMembers_filter (fun name => (ElementName.ofName? name).isNone) hkeep
  rw [ofPairs, hd]
  show d.finish = _
  rw [Draft.finish, hsettings]

theorem ofPairs_error {ps : List (String × Value)} {e : ElementName} {v : Value} (hmem : (e.name, v) ∈ ps)
    (h : v.text? = none) : ∃ complaint, ofPairs ps = .error complaint := by
  obtain ⟨complaint, hcomplaint⟩ := Draft.putMembers_error hmem h {}
  exact ⟨complaint, by rw [ofPairs, hcomplaint]; rfl⟩

variable {raw : String} {ms : Members}

/-- The members of such an object as they stand there: what is found among them, and what they say. -/
theorem Unambiguous.exists_pairs (h : Unambiguous raw ms) :
    ∃ ps : List (String × Value), (ps.map Prod.fst).Nodup ∧ (∀ name v, ms.find? name = some v ↔ (name, v) ∈ ps) ∧
      (∀ c, Config.parse raw = .ok c ↔ Config.ofMembers ps = .ok c) ∧ ∀ o, parse raw = .ok o ↔ ofPairs ps = .ok o := by
  have hdocument : Json.Reader.document raw.toList = .ok (.object ms) :=
    Json.Reader.of_mapError_ok (Json.Reader.of_mapError_ok h.accepted)
  obtain ⟨inner, ps, rest, hstart, hmembers, hend, rfl⟩ := Json.Reader.document_object_ok hdocument
  have hnames : memberNames raw = ps.map Prod.fst := by
    rw [memberNames, hstart]
    show (match Json.Reader.members (Json.Reader.value Reader.innerDepth) (inner.length + 1) true inner with
      | .ok (ps, _) => ps.map Prod.fst
      | .error _ => []) = _
    rw [Reader.innerDepth, hmembers]
  have hdistinct : (ps.map Prod.fst).Nodup := hnames ▸ h.distinct
  obtain ⟨hlists, hfuel⟩ := Config.Draft.lists_of_members hmembers
  refine ⟨ps, hdistinct, fun name v => Members.find?_ofPairs hdistinct,
    Config.parse_of_lists hstart hlists hfuel hend, fun o => ?_⟩
  have hread : (read raw.toList).toOption = (ofPairs ps).toOption.map fun o => (o, rest) := by
    have hobject : read raw.toList = Draft.readMembers (inner.length + 1) true {} inner := by
      rw [read, hstart]
      rfl
    rw [hobject, Draft.readMembers_of_members hmembers, ofPairs]
  have hdocument : document raw.toList = (read raw.toList).bind fun p => (Json.Reader.finish p.2).map fun _ => p.1 := by
    rw [document]
    cases read raw.toList <;> rfl
  rw [parse, Json.Reader.mapError_eq_ok_iff, hdocument]
  exact Json.Reader.whole_eq_ok_iff hread hend o

/-! ## The same settings -/

namespace Unambiguous

theorem config_ok_iff (h : Unambiguous raw ms) :
    (∃ c, Config.parse raw = .ok c) ↔ ∀ s v, ms.find? (Setting.name s) = some v → (Winner.member v).Admissible s := by
  obtain ⟨ps, hdistinct, hfind, hconfig, -⟩ := h.exists_pairs
  simp only [hconfig, hfind, Winner.admissible_member]
  constructor
  · rintro ⟨c, hc⟩ s v hmem
    rw [Option.isSome_iff_ne_none]
    intro hv
    obtain ⟨e, he⟩ := Config.ofMembers_error hmem hv
    exact nomatch hc.symm.trans he
  · intro htakes
    obtain ⟨c, hc, -⟩ := Config.ofMembers_ok (Config.Draft.distinct_of_nodup hdistinct) htakes
    exact ⟨c, hc⟩

theorem config_get? (h : Unambiguous raw ms) {c : Config} (hc : Config.parse raw = .ok c) (s : Setting) :
    c.get? s = (ms.find? s.name).elim (Config.standard.get? s) fun v => (Winner.member v).text? := by
  have htakes := h.config_ok_iff.mp ⟨c, hc⟩
  obtain ⟨ps, hdistinct, hfind, hconfig, -⟩ := h.exists_pairs
  simp only [hfind, Winner.admissible_member] at htakes
  obtain ⟨c', hc', hgiven, hleft⟩ := Config.ofMembers_ok (Config.Draft.distinct_of_nodup hdistinct) htakes
  obtain rfl : c' = c := Except.ok.inj (hc'.symm.trans ((hconfig c).mp hc))
  cases hs : ms.find? s.name with
  | none =>
    refine hleft s fun v hv => ?_
    exact nomatch ((hfind _ v).mpr hv).symm.trans hs
  | some v =>
    have hmem := (hfind _ v).mp hs
    rw [hgiven s v hmem, Winner.join_value?_member (htakes s v hmem)]
    rfl

theorem options_ok_iff (h : Unambiguous raw ms) :
    (∃ o, parse raw = .ok o) ↔ (∃ c, Config.parse raw = .ok c) ∧
      ∀ e v, ms.find? (ElementName.name e) = some v → v.text?.isSome = true := by
  obtain ⟨ps, hdistinct, hfind, hconfig, hoptions⟩ := h.exists_pairs
  simp only [hconfig, hoptions, hfind]
  constructor
  · rintro ⟨o, ho⟩
    have htakes : ∀ e v, (ElementName.name e, v) ∈ ps → v.text?.isSome = true := by
      intro e v hmem
      rw [Option.isSome_iff_ne_none]
      intro hv
      obtain ⟨complaint, hcomplaint⟩ := ofPairs_error hmem hv
      exact nomatch ho.symm.trans hcomplaint
    obtain ⟨d, hd, -⟩ := ofPairs_eq hdistinct htakes
    obtain ⟨c, hc, -⟩ := Json.Reader.of_map_ok (hd.symm.trans ho)
    exact ⟨⟨c, hc⟩, htakes⟩
  · rintro ⟨⟨c, hc⟩, htakes⟩
    obtain ⟨d, hd, -⟩ := ofPairs_eq hdistinct htakes
    rw [hc] at hd
    exact ⟨_, hd⟩

theorem options_ok (h : Unambiguous raw ms) {o : Options} (ho : parse raw = .ok o) :
    Config.parse raw = .ok o.config ∧
      ∀ e, o.id e = ((ms.find? (ElementName.name e)).bind Value.text?).getD (standard.id e) := by
  have htakes := (h.options_ok_iff.mp ⟨o, ho⟩).2
  obtain ⟨ps, hdistinct, hfind, hconfig, hoptions⟩ := h.exists_pairs
  simp only [hfind] at htakes
  obtain ⟨d, hd, hgiven, hleft⟩ := ofPairs_eq hdistinct htakes
  obtain ⟨c, hc, rfl⟩ := Json.Reader.of_map_ok (hd.symm.trans ((hoptions o).mp ho))
  refine ⟨(hconfig c).mpr hc, fun e => ?_⟩
  have hid : d.get? e = (ms.find? e.name).bind Value.text? := by
    cases he : ms.find? e.name with
    | none => exact hleft e fun v hv => nomatch ((hfind _ v).mpr hv).symm.trans he
    | some v => exact hgiven e v ((hfind _ v).mp he)
  rw [← hid]
  cases e <;> rfl

end Unambiguous

/-- Where a configuration is read, options are read with the same settings, unless an element is named by something else
than a text. Settings are what their own members say, and so are ids. -/
theorem settings_beside_ids (h : Unambiguous raw ms) :
    ((∃ c, Config.parse raw = .ok c) ↔
      ∀ s v, ms.find? (Setting.name s) = some v → (Winner.member v).Admissible s) ∧
    ((∃ o, parse raw = .ok o) ↔ (∃ c, Config.parse raw = .ok c) ∧
      ∀ e v, ms.find? (ElementName.name e) = some v → ∃ id, v = .text id) ∧
    (∀ c, Config.parse raw = .ok c → ∀ s,
      c.get? s = (ms.find? s.name).elim (Config.standard.get? s) fun v => (Winner.member v).text?) ∧
    (∀ o, parse raw = .ok o → Config.parse raw = .ok o.config ∧
      ∀ e, o.id e = ((ms.find? (ElementName.name e)).bind Value.text?).getD (standard.id e)) ∧
    ∀ raw' ms' o o', Unambiguous raw' ms' → parse raw = .ok o → parse raw' = .ok o' →
      ((∀ s, ms.find? (Setting.name s) = ms'.find? s.name) → o.config = o'.config) ∧
      ∀ e, ms.find? (ElementName.name e) = ms'.find? e.name → o.id e = o'.id e := by
  refine ⟨h.config_ok_iff, ?_, fun c hc => h.config_get? hc, fun o ho => h.options_ok ho, ?_⟩
  · simp only [← isSome_text?_iff]
    exact h.options_ok_iff
  · intro raw' ms' o o' h' ho ho'
    obtain ⟨hc, hid⟩ := h.options_ok ho
    obtain ⟨hc', hid'⟩ := h'.options_ok ho'
    constructor
    · intro hsame
      refine Config.ext_get? fun s => ?_
      rw [h.config_get? hc, h'.config_get? hc', hsame]
    · intro e hsame
      rw [hid, hid', hsame]

/-- An id among settings, of which one is a number and one nothing. -/
def mixed : String :=
  "\x7b\"transcript_id\": \"log\", \"x\": [1], \"endpoint\": 18446744073709551615, \"base_url\": null\x7d"

def mixedMembers : Members :=
  [("base_url", .null), ("endpoint", .ofInt 18446744073709551615), ("transcript_id", .text "log"),
    ("x", .array [.ofInt 1])]

theorem unambiguous_mixed : Unambiguous mixed mixedMembers := by
  have haccepted : Exchange.decodeBody mixed = .ok (.object mixedMembers) := by cbv
  have hnames : memberNames mixed = ["transcript_id", "x", "endpoint", "base_url"] := by cbv
  refine ⟨haccepted, ?_⟩
  rw [hnames]
  decide

theorem settings_beside_ids_mixed :
    Unambiguous mixed mixedMembers ∧ ∃ o, parse mixed = .ok o ∧ Config.parse mixed = .ok o.config ∧
      o.id .transcript = "log" ∧ o.config.get? .endpoint = some "18446744073709551615" := by
  obtain ⟨hconfig, hoptions, hsettings, hids, -⟩ := settings_beside_ids unambiguous_mixed
  have hadmissible : ∀ s v, mixedMembers.find? (Setting.name s) = some v → (Winner.member v).Admissible s := by
    intro s v hv
    cases s with
    | endpoint =>
      obtain rfl := Option.some.inj hv
      exact .memberNumber _
    | baseUrl =>
      obtain rfl := Option.some.inj hv
      exact .memberNull rfl
    | _ => exact nomatch hv
  have htexts : ∀ e v, mixedMembers.find? (ElementName.name e) = some v → ∃ id, v = .text id := by
    intro e v hv
    cases e with
    | input => exact nomatch hv
    | transcript => exact ⟨"log", (Option.some.inj hv).symm⟩
  obtain ⟨o, ho⟩ := hoptions.mpr ⟨hconfig.mpr hadmissible, htexts⟩
  obtain ⟨hc, hid⟩ := hids o ho
  exact ⟨unambiguous_mixed, o, ho, hc, hid .transcript, hsettings _ hc .endpoint⟩

end Options

end Parley.Page

import Parley.Proofs.Config.EnvValue
import Parley.Proofs.Config.Layers

/-!
# Truth values and whole numbers in the environment

A truth value or a whole number in a variable is read as such, and written again when a setting is made of it.

* `Environment.Sets`, `given?_of_sets` : the last variable that says something of a setting counts;
* `load_ok` : what is loaded is made of layers;
* `Arrives`, `scalars_arrive` : a setting is what is written of the value, and that is what was set, unless there is
  more to it than the number needs (`leading_zeros_are_lost`).
-/

namespace Parley.Config

open EnvValue (Redundant Spelling)

namespace Environment

/-- Of the variables that say something of a setting the last one says this. -/
inductive Sets (env : Environment) (s : Setting) (raw : String) : Prop
  | intro {before after : Environment} {name : String} (split : env = before ++ (name, raw) :: after)
      (named : keyParts? name = some [s.name])
      (last : ∀ v ∈ after, ∀ key more, keyParts? v.1 = some (key :: more) → key ≠ s.name)

theorem keyParts?_of_entry? {v : String × String} {key : String} {g : Given} (h : entry? v = some (key, g)) :
    ∃ more, keyParts? v.1 = some (key :: more) := by
  unfold entry? at h
  split at h
  · next name hparts =>
    obtain ⟨rfl, -⟩ := Prod.mk.inj (Option.some.inj h)
    exact ⟨[], hparts⟩
  · next name more _ hparts =>
    obtain ⟨rfl, -⟩ := Prod.mk.inj (Option.some.inj h)
    exact ⟨more, hparts⟩
  · exact nomatch h

/-- What counts for a setting is what the last variable says of it. -/
theorem given?_of_sets {env : Environment} {s : Setting} {raw : String} (h : env.Sets s raw) :
    env.given? s = some (EnvValue.parse raw).given := by
  cases h with
  | @intro before after name split named last =>
    have hentry : entry? (name, raw) = some (s.name, (EnvValue.parse raw).given) := by
      unfold entry?
      rw [named]
    have hlater : (after.filterMap entry?).reverse.lookup s.name = none := by
      rw [List.lookup_eq_none_iff]
      intro e he
      obtain ⟨v, hv, hve⟩ := mem_entries he
      obtain ⟨more, hparts⟩ := keyParts?_of_entry? hve
      rw [bne_iff_ne]
      exact (last v hv e.1 more hparts).symm
    rw [given?, split, List.filterMap_append, List.filterMap_cons_some hentry, List.reverse_append, List.reverse_cons,
      List.append_assoc, List.lookup_append, hlater, Option.none_or, List.singleton_append, List.lookup_cons,
      beq_self_eq_true]

end Environment

/-- Whatever is loaded is made of the members of a file, if there are any, and of the environment. -/
theorem load_ok {directory path : String} {found : Found} {env : Environment} {c : Config}
    (h : (load directory path found env).result = .ok c) :
    ∃ l : Layers, l.environment = env ∧ ∃ c', l.config = .ok c' ∧ c = c'.normalized := by
  obtain ⟨c', hc', rfl⟩ := Json.Reader.of_map_ok h
  have hlayers : ∀ (read : Except String Json.Members) (label : String),
      (read.bind fun ms => (Layers.mk ms env label).config) = .ok c' →
        ∃ l : Layers, l.environment = env ∧ l.config = .ok c' := by
    intro read label hread
    cases read with
    | error e => exact nomatch hread
    | ok ms => exact ⟨⟨ms, env, label⟩, rfl, hread⟩
  obtain ⟨l, henv, hl⟩ := hlayers _ _ (Json.Reader.of_mapError_ok hc')
  exact ⟨l, henv, c', hl, rfl⟩

theorem Layers.config_ok_iff {l : Layers} : (∃ c, l.config = .ok c) ↔ ∀ s, l.Accepts s := by
  constructor
  · rintro ⟨c, hc⟩ s
    by_contra hs
    obtain ⟨e, he⟩ := l.config_error hs
    cases hc.symm.trans he
  · intro h
    obtain ⟨c, hc, -⟩ := l.config_ok h
    exact ⟨c, hc⟩

/-- What comes of a variable that says of a setting `t`, which becomes `x`. -/
structure Arrives (env : Environment) (s : Setting) (t x : String) : Prop where
  /-- Whatever is loaded, this is what the setting is. -/
  becomes : ∀ directory path found c, (load directory path found env).result = .ok c → c.get? s = some x
  /-- The variable is not in the way of loading: that fails for another setting only. -/
  loads : ∀ directory path found file, Holds found file →
    ((∃ c, (load directory path found env).result = .ok c) ↔ ∀ s' ≠ s, (Layers.mk file env "").Accepts s')
  spelled : Spelling t.toList (EnvValue.parse t)
  /-- It is what was set, unless there is more to that than the number needs. -/
  same : x = t ↔ ¬Redundant t.toList

theorem scalars_arrive {env : Environment} {s : Setting} {raw x : String} (h : env.Sets s raw)
    (scalar : (EnvValue.parse (Text.trim raw)).scalarText? = some x) : Arrives env s (Text.trim raw) x := by
  have htrim : (Text.trim raw).toList = Text.trimChars raw.toList := String.toList_ofList
  have hspelling : Spelling (Text.trim raw).toList (EnvValue.parse (Text.trim raw)) :=
    EnvValue.spelling_of_parse (by rw [htrim, Text.trimChars_trimChars]) scalar
  obtain ⟨y, hy, hyx⟩ := EnvValue.given_spelling (htrim ▸ hspelling) scalar
  have hgiven : env.given? s = some (.text y) := by rw [Environment.given?_of_sets h, hy]
  have hlayer : ∀ l : Layers, l.environment = env → l.given? s = some (.environment, .text y) := by
    rintro l rfl
    rw [Layers.given?, hgiven]
  have haccepts : ∀ l : Layers, l.environment = env → l.Accepts s := by
    intro l hl p hp
    rw [hlayer l hl] at hp
    obtain rfl := Option.some.inj hp
    rfl
  constructor
  case becomes =>
    intro directory path found c h
    obtain ⟨l, hl, c', hc', rfl⟩ := load_ok h
    obtain ⟨c'', hc'', hget⟩ := l.config_ok (Layers.config_ok_iff.mp ⟨c', hc'⟩)
    obtain rfl := Except.ok.inj (hc'.symm.trans hc'')
    have hvalue : l.value? standard s = some y := by
      rw [Layers.value?, hlayer l hl]
      rfl
    rw [get?_normalized, hget, hvalue, Option.elim_some, Setting.ofText, hyx,
      if_neg (EnvValue.scalarText?_ne_empty scalar)]
  case loads =>
    intro directory path found file hfile
    obtain ⟨label, hload⟩ := load_eq hfile directory path env
    have hresult : (∃ c, (load directory path found env).result = .ok c) ↔
        ∃ c, (Layers.mk file env label).config = .ok c := by
      rw [hload]
      constructor
      · rintro ⟨c, hc⟩
        obtain ⟨c', hc', -⟩ := Json.Reader.of_map_ok hc
        exact ⟨c', Json.Reader.of_mapError_ok hc'⟩
      · rintro ⟨c, hc⟩
        exact ⟨c.normalized, by rw [hc]; rfl⟩
    rw [hresult, Layers.config_ok_iff]
    refine ⟨fun h s' _ => h s', fun h s' => ?_⟩
    by_cases hs' : s' = s
    · exact hs' ▸ haccepts _ rfl
    · exact h s' hs'
  case spelled => exact hspelling
  case same =>
    rw [← EnvValue.scalarText?_spelling hspelling, scalar]
    exact Option.some_inj.symm

def naming (agent : String) : Environment := [("CHATLINE_AGENT_NAME", agent)]

theorem sets_naming (agent : String) : (naming agent).Sets .agentName agent :=
  @Environment.Sets.intro _ _ _ [] [] _ rfl (by decide +kernel) fun _ hv => absurd hv List.not_mem_nil

theorem scalars_arrive_naming : (naming " 42\n").Sets .agentName " 42\n" ∧
    (EnvValue.parse (Text.trim " 42\n")).scalarText? = some "42" ∧
    Arrives (naming " 42\n") .agentName (Text.trim " 42\n") "42" := by
  have hscalar : (EnvValue.parse (Text.trim " 42\n")).scalarText? = some "42" := by decide +kernel
  exact ⟨sets_naming _, hscalar, scalars_arrive (sets_naming _) hscalar⟩

/-- An agent whose name is a number with zeros in front is called by the number alone. -/
theorem leading_zeros_are_lost :
    (naming "007").Sets .agentName "007" ∧ (EnvValue.parse (Text.trim "007")).scalarText? = some "7" ∧
    (load "/" "config.json" .nothing (naming "007")).result = .ok { standard with agentName := "7" } ∧
    ({ standard with agentName := "7" } : Config).get? .agentName ≠ some (Text.trim "007") :=
  ⟨sets_naming _, by decide +kernel, by decide +kernel, by decide +kernel⟩

end Parley.Config

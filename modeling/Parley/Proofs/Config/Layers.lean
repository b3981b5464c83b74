import Parley.Proofs.Config.Settings
import Parley.Proofs.Json.Reading

/-!
# The layers of a configuration

* `Winner`, `winner` : what counts for a setting, in the environment, in the file, or neither; `Winner.Admissible`,
  `Winner.settles` : whether a setting can be that, and what it is then;
* `Environment.Plain`, `given?_plain` : variables that say one thing each for a setting;
* `Holds`, `fileMembers_of_parse` : files that hold an object;
* `Layers.assign_ok`, `Layers.config_ok`, `Layers.config_error` : one setting, and all of them;
* `Layered`, `load_layered` : what comes of loading, and of the flags of the terminal client.
-/

namespace Parley.Config

open Json (Members)

/-! ## What counts -/

inductive Winner
  | environment (v : EnvValue)
  | member (v : Json.Value)
  | default

namespace Winner

/-- Text, a number, a truth value, or nothing in the place of the base URL. -/
inductive Admissible (s : Setting) : Winner → Prop
  | boolean (b : Bool) : Admissible s (.environment (.boolean b))
  | integer (n : Int) : Admissible s (.environment (.integer n))
  | float (x : Binary64) : Admissible s (.environment (.float x))
  | text (t : String) : Admissible s (.environment (.text t))
  | memberBoolean (b : Bool) : Admissible s (.member (.boolean b))
  | memberNumber (n : Json.Number) : Admissible s (.member (.number n))
  | memberText (t : String) : Admissible s (.member (.text t))
  | memberNull (h : s = .baseUrl) : Admissible s (.member .null)
  | default : Admissible s .default

def text? : Winner → Option String
  | environment (.boolean b) | member (.boolean b) => some (toString b)
  | environment (.integer n) | member (.number (.integer n)) => some (toString n)
  | environment (.float x) | member (.number (.float x)) => some x.plainText
  | environment (.text t) | member (.text t) => some t
  | environment .compound | member .null | member (.array _) | member (.object _) | default => none

def settles (s : Setting) (w : Winner) : Option String := w.text?.elim (standard.get? s) s.ofText

def given? : Winner → Option Given
  | environment v => some v.given
  | member v => some (.ofJson v)
  | default => none

theorem admissible_iff (s : Setting) (w : Winner) :
    w.Admissible s ↔ ∀ g, w.given? = some g → (g.value? s).isSome = true := by
  constructor
  · rintro h g hg
    cases h with
    | memberNull hs =>
      obtain rfl := Option.some.inj hg
      simp [Given.ofJson, Given.value?, hs]
    | memberNumber n =>
      obtain rfl := Option.some.inj hg
      rfl
    | default => exact nomatch hg
    | _ =>
      obtain rfl := Option.some.inj hg
      rfl
  · intro h
    cases w with
    | default => exact .default
    | environment v =>
      cases v with
      | boolean b => exact .boolean b
      | integer n => exact .integer n
      | float x => exact .float x
      | text t => exact .text t
      | compound => exact nomatch h _ rfl
    | member v =>
      cases v with
      | boolean b => exact .memberBoolean b
      | number n => exact .memberNumber n
      | text t => exact .memberText t
      | array | object => exact nomatch h _ rfl
      | null =>
        have hnull := h _ rfl
        by_cases hs : s = .baseUrl
        · exact .memberNull hs
        · simp [Given.ofJson, Given.value?, hs] at hnull

theorem settles_of_given {s : Setting} {w : Winner} {g : Given} {v : Option String} (h : w.given? = some g)
    (hv : g.value? s = some v) : v.elim (standard.get? s) s.ofText = w.settles s := by
  have htext : w.text? = v := by
    cases w with
    | default => exact nomatch h
    | environment e =>
      obtain rfl := Option.some.inj h
      cases e with
      | compound => exact nomatch hv
      | _ => exact Option.some.inj hv
    | member m =>
      obtain rfl := Option.some.inj h
      cases m with
      | array | object => exact nomatch hv
      | number n =>
        cases n <;> exact Option.some.inj hv
      | null =>
        simp only [Given.ofJson, Given.value?] at hv
        split at hv
        · exact Option.some.inj hv
        · exact nomatch hv
      | _ => exact Option.some.inj hv
  rw [settles, htext]

theorem admissible_member {s : Setting} {v : Json.Value} :
    (member v).Admissible s ↔ ((Given.ofJson v).value? s).isSome = true := by
  rw [admissible_iff]
  exact ⟨fun h => h _ rfl, fun h g hg => Option.some.inj hg ▸ h⟩

theorem join_value?_member {s : Setting} {v : Json.Value} (h : ((Given.ofJson v).value? s).isSome = true) :
    ((Given.ofJson v).value? s).join = (member v).text? := by
  cases v with
  | array | object => exact nomatch h
  | number n => cases n <;> rfl
  | null =>
    simp only [Given.ofJson, Given.value?]
    split <;> rfl
  | _ => rfl

end Winner

/-! ## The environment -/

namespace Environment

/-- What a variable's name says, in lowercase: all of it after the start. -/
def key? (name : String) : Option (List Char) :=
  (afterStart? variableStart.toList (Text.trimChars name.toList)).map fun rest =>
    (Text.trimChars rest).map Char.toLower

/-- No variable is an entry of a dictionary, and no two say something of the same setting. -/
structure Plain (env : Environment) : Prop where
  undotted : ∀ v ∈ env, ∀ key, key? v.1 = some key → '.' ∉ key
  distinct : ∀ v ∈ env, ∀ v' ∈ env, ∀ key, key? v.1 = some key → key? v'.1 = some key → v = v'

def value? (env : Environment) (s : Setting) : Option EnvValue :=
  (List.find? (fun v => key? v.1 = some s.name.toList) env).map fun v => EnvValue.parse v.2

theorem name_ne_nil (s : Setting) : s.name.toList ≠ [] := by
  cases s <;> decide

theorem keyParts?_of_key? {name : String} {key : List Char} (h : key? name = some key) (undotted : '.' ∉ key)
    (hne : key ≠ []) : keyParts? name = some [String.ofList key] := by
  obtain ⟨rest, hrest, rfl⟩ := Option.map_eq_some_iff.mp h
  have hpieces : Text.pieces '.' ((Text.trimChars rest).map Char.toLower) =
      [(Text.trimChars rest).map Char.toLower] :=
    Text.pieces_of_no_separator _ fun c hc hdot => undotted (hdot ▸ hc)
  unfold keyParts?
  rw [hrest]
  dsimp only
  rw [hpieces]
  simp only [List.any_cons, List.any_nil, Bool.or_false, List.isEmpty_iff, hne, if_false, List.map_cons, List.map_nil]

theorem entry?_eq_some_iff {v : String × String} (undotted : ∀ key, key? v.1 = some key → '.' ∉ key) (s : Setting)
    (g : Given) : entry? v = some (s.name, g) ↔ key? v.1 = some s.name.toList ∧ g = (EnvValue.parse v.2).given := by
  cases hkey : key? v.1 with
  | none =>
    have hstart : afterStart? variableStart.toList (Text.trimChars v.1.toList) = none := Option.map_eq_none_iff.mp hkey
    have hparts : keyParts? v.1 = none := by
      unfold keyParts?
      rw [hstart]
    simp [hparts, entry?]
  | some key =>
    by_cases hne : key = []
    · subst hne
      obtain ⟨rest, hrest, hnil⟩ := Option.map_eq_some_iff.mp hkey
      have hparts : keyParts? v.1 = none := by
        unfold keyParts?
        rw [hrest]
        dsimp only
        rw [hnil]
        rfl
      have hname : ([] : List Char) ≠ s.name.toList := (name_ne_nil s).symm
      simp [hparts, hname, entry?]
    · have hparts := keyParts?_of_key? hkey (undotted key hkey) hne
      have hname : String.ofList key = s.name ↔ key = s.name.toList := by
        constructor
        · intro h
          rw [← h, String.toList_ofList]
        · intro h
          rw [h, String.ofList_toList]
      simp [hparts, hname, eq_comm, entry?]

theorem mem_entries {env : Environment} {e : String × Given} (h : e ∈ (env.filterMap entry?).reverse) :
    ∃ v ∈ env, entry? v = some e :=
  List.mem_filterMap.mp (List.mem_reverse.mp h)

/-- Of variables that say one thing each, the one for a setting counts. -/
theorem given?_plain {env : Environment} (h : env.Plain) (s : Setting) :
    env.given? s = (env.value? s).map EnvValue.given := by
  have hentry : ∀ v ∈ env, ∀ g, entry? v = some (s.name, g) ↔
      key? v.1 = some s.name.toList ∧ g = (EnvValue.parse v.2).given :=
    fun v hv => entry?_eq_some_iff (h.undotted v hv) s
  unfold given? value?
  cases hfind : List.find? (fun v => key? v.1 = some s.name.toList) env with
  | none =>
    refine List.lookup_eq_none_iff.mpr fun e he => ?_
    obtain ⟨v, hv, hve⟩ := mem_entries he
    rw [bne_iff_ne]
    intro hname
    have hkey := ((hentry v hv e.2).mp (by rw [hve, hname])).1
    exact List.find?_eq_none.mp hfind v hv (decide_eq_true hkey)
  | some v =>
    have hv : v ∈ env := List.mem_of_find?_eq_some hfind
    have hkey : key? v.1 = some s.name.toList := by simpa using List.find?_some hfind
    have hmem : (s.name, (EnvValue.parse v.2).given) ∈ (env.filterMap entry?).reverse :=
      List.mem_reverse.mpr (List.mem_filterMap.mpr ⟨v, hv, (hentry v hv _).mpr ⟨hkey, rfl⟩⟩)
    cases hg : List.lookup s.name (env.filterMap entry?).reverse with
    | none =>
      have hne := List.lookup_eq_none_iff.mp hg _ hmem
      simp at hne
    | some g =>
      -- the entry that is found comes from some variable, and no other one has this key
      obtain ⟨before, after, hsplit, -⟩ := List.lookup_eq_some_iff.mp hg
      obtain ⟨v', hv', hve⟩ := mem_entries (hsplit ▸ List.mem_append_right before List.mem_cons_self)
      obtain ⟨hkey', rfl⟩ := (hentry v' hv' g).mp hve
      rw [h.distinct v' hv' v hv _ hkey' hkey]
      rfl

end Environment

/-- What counts for a setting, beside a file with these members. -/
def winner (env : Environment) (file : Members) (s : Setting) : Winner :=
  match env.value? s with
  | some v => .environment v
  | none =>
    match file.find? s.name with
    | some v => .member v
    | none => .default

/-! ## Layers -/

namespace Layers

variable (l : Layers)

/-- What is given for a setting is something that the setting can be. -/
def Accepts (s : Setting) : Prop := ∀ p, l.given? s = some p → (p.2.value? s).isSome = true

/-- What a setting is when everything that is given for it counts. -/
def value? (c : Config) (s : Setting) : Option String :=
  match l.given? s with
  | none => c.get? s
  | some p => (p.2.value? s).join

theorem assign_ok {s : Setting} (h : l.Accepts s) (c : Config) :
    ∃ c', l.assign c s = .ok c' ∧ ∀ s', c'.get? s' = if s' = s then l.value? c s else c.get? s' := by
  unfold assign value?
  cases hg : l.given? s with
  | none =>
    refine ⟨c, rfl, fun s' => ?_⟩
    split
    · next hs => rw [hs]
    · rfl
  | some p =>
    obtain ⟨v, hv⟩ := Option.isSome_iff_exists.mp (h p hg)
    obtain ⟨c', hc', hget⟩ := set?_some (c := c) hv
    refine ⟨c', ?_, ?_⟩
    · dsimp only
      rw [hc']
    · simpa [hv] using hget

theorem assign_error {s : Setting} (h : ¬ l.Accepts s) (c : Config) : ∃ e, l.assign c s = .error e := by
  unfold Accepts at h
  push Not at h
  obtain ⟨p, hg, hv⟩ := h
  unfold assign
  rw [hg]
  dsimp only
  rw [set?_none (Option.not_isSome_iff_eq_none.mp hv)]
  exact ⟨_, rfl⟩

theorem value?_congr {c c' : Config} {s : Setting} (h : l.given? s = none → c'.get? s = c.get? s) :
    l.value? c' s = l.value? c s := by
  unfold value?
  cases hg : l.given? s with
  | none => exact h hg
  | some p => rfl

theorem foldlM_assign_ok {ss : List Setting} (h : ∀ s ∈ ss, l.Accepts s) (c : Config) :
    ∃ c', ss.foldlM l.assign c = .ok c' ∧ ∀ s, c'.get? s = if s ∈ ss then l.value? c s else c.get? s := by
  induction ss generalizing c with
  | nil => exact ⟨c, rfl, fun s => by simp⟩
  | cons s ss ih =>
    obtain ⟨c₁, hfirst, hget₁⟩ := l.assign_ok (h s List.mem_cons_self) c
    obtain ⟨c₂, hrest, hget₂⟩ := ih (fun s' hs' => h s' (List.mem_cons_of_mem s hs')) c₁
    refine ⟨c₂, ?_, fun s' => ?_⟩
    · rw [List.foldlM_cons, hfirst]
      exact hrest
    · have hsame : l.given? s' = none → c₁.get? s' = c.get? s' := by
        intro hnone
        rw [hget₁]
        split
        · next heq => rw [← heq, value?, hnone]
        · rfl
      rw [hget₂, l.value?_congr hsame]
      by_cases hs : s' = s
      · subst hs
        simp [hget₁]
      · simp [hget₁, hs]

theorem foldlM_assign_error {ss : List Setting} {s : Setting} (hs : s ∈ ss) (h : ¬ l.Accepts s) (c : Config) :
    ∃ e, ss.foldlM l.assign c = .error e := by
  induction ss generalizing c with
  | nil => exact absurd hs List.not_mem_nil
  | cons s' ss ih =>
    rw [List.foldlM_cons]
    by_cases hfirst : l.Accepts s'
    · obtain ⟨c', hc', -⟩ := l.assign_ok hfirst c
      rw [hc']
      have hne : s ≠ s' := fun heq => h (heq ▸ hfirst)
      exact ih ((List.mem_cons.mp hs).resolve_left hne) c'
    · obtain ⟨e, he⟩ := l.assign_error hfirst c
      rw [he]
      exact ⟨e, rfl⟩

theorem mem_sorted (s : Setting) : s ∈ Setting.sorted := by
  cases s <;> decide

theorem config_ok (h : ∀ s, l.Accepts s) : ∃ c, l.config = .ok c ∧ ∀ s, c.get? s = l.value? standard s := by
  obtain ⟨c, hc, hget⟩ := l.foldlM_assign_ok (fun s _ => h s) standard
  exact ⟨c, hc, fun s => (hget s).trans (if_pos (mem_sorted s))⟩

theorem config_error {s : Setting} (h : ¬ l.Accepts s) : ∃ e, l.config = .error e :=
  l.foldlM_assign_error (mem_sorted s) h standard

/-! ### What counts -/

variable {l}

theorem given?_winner (h : l.environment.Plain) (s : Setting) :
    (l.given? s).map Prod.snd = (winner l.environment l.file s).given? := by
  unfold given? winner
  rw [Environment.given?_plain h]
  cases l.environment.value? s with
  | some v => rfl
  | none =>
    dsimp only [Option.map_none]
    cases l.file.find? s.name <;> rfl

theorem accepts_iff (h : l.environment.Plain) (s : Setting) :
    l.Accepts s ↔ (winner l.environment l.file s).Admissible s := by
  rw [Winner.admissible_iff, ← given?_winner h]
  unfold Accepts
  cases l.given? s <;> simp

theorem value?_settles (h : l.environment.Plain) {s : Setting} (hs : l.Accepts s) :
    (l.value? standard s).elim (standard.get? s) s.ofText = (winner l.environment l.file s).settles s := by
  have hgiven := given?_winner h s
  unfold value?
  cases hg : l.given? s with
  | none =>
    rw [hg, Option.map_none] at hgiven
    dsimp only
    rw [tidy_standard.get?]
    cases hw : winner l.environment l.file s with
    | default => rfl
    | environment | member =>
      rw [hw] at hgiven
      exact nomatch hgiven
  | some p =>
    rw [hg, Option.map_some] at hgiven
    obtain ⟨v, hv⟩ := Option.isSome_iff_exists.mp (hs p hg)
    dsimp only
    rw [hv]
    exact Winner.settles_of_given hgiven.symm hv

end Layers

/-! ## Loading -/

inductive Holds : Found → Members → Prop
  | nothing : Holds .nothing []
  | object {content : String} {ms : Members} (h : Json.Value.parse content = .ok (.object ms)) : Holds (.file content) ms

theorem fileMembers_of_parse {content : String} {ms : Members} (h : Json.Value.parse content = .ok (.object ms)) :
    fileMembers content = .ok ms := by
  have hdocument : Json.Reader.document content.toList = .ok (.object ms) := by
    unfold Json.Value.parse at h
    cases hd : Json.Reader.document content.toList with
    | error e =>
      rw [hd] at h
      exact nomatch h
    | ok v =>
      rw [hd] at h
      exact congrArg Except.ok (Except.ok.inj h)
  obtain ⟨inner, hstart⟩ := Json.Reader.document_object hdocument
  unfold fileMembers
  dsimp only
  rw [hstart, hdocument]
  rfl

/-- What comes of loading, and of the flags of the terminal client after that. -/
structure Layered (env : Environment) (file : Members) (fs : Terminal.Flags) (loading : Loading) : Prop where
  succeeds : (∃ c, loading.result = .ok c) ↔ ∀ s, (winner env file s).Admissible s
  settings : ∀ c, loading.result = .ok c → ∀ s, c.get? s = (winner env file s).settles s
  /-- Flags take the place of what was loaded, and blank ones stand for defaults. -/
  flags : ∀ c, loading.result = .ok c → ∃ config, fs.configuration loading = .ok config ∧
    ∀ s, config.get? s = ((fs.given? s).elim (c.get? s) s.ofText).or (Terminal.Flags.fallback? s)
  /-- Flags do not help where nothing is loaded. -/
  fails : ∀ e, loading.result = .error e → fs.configuration loading = .error (.config "load-config" e)

theorem load_eq {found : Found} {file : Members} (h : Holds found file) (directory path : String) (env : Environment) :
    ∃ label, (load directory path found env).result =
      (((Layers.mk file env label).config.mapError (.extract "extract-widget-config" path)).map normalized) := by
  cases h with
  | nothing => exact ⟨_, rfl⟩
  | object hparse =>
    refine ⟨Path.seenFrom directory (Path.join directory path), ?_⟩
    unfold load
    dsimp only
    rw [fileMembers_of_parse hparse]
    rfl

theorem tidy_loaded {directory path : String} {found : Found} {env : Environment} {c : Config}
    (h : (load directory path found env).result = .ok c) : c.Tidy := by
  unfold load at h
  dsimp only at h
  generalize Except.mapError _ _ = read at h
  cases read with
  | error e => exact nomatch h
  | ok c' =>
    obtain rfl := Except.ok.inj h
    exact c'.tidy_normalized

/-- For each setting the last layer that says something of it counts, and nothing else. -/
theorem load_layered {found : Found} {file : Members} {env : Environment} (hfile : Holds found file) (henv : env.Plain)
    (directory path : String) (fs : Terminal.Flags) :
    Layered env file fs (load directory path found env) := by
  obtain ⟨label, hload⟩ := load_eq hfile directory path env
  let l : Layers := ⟨file, env, label⟩
  have haccepts : ∀ s, l.Accepts s ↔ (winner env file s).Admissible s := fun s => Layers.accepts_iff henv s
  have hok : (∀ s, l.Accepts s) → ∃ c, (load directory path found env).result = .ok c ∧
      ∀ s, c.get? s = (winner env file s).settles s := by
    intro h
    obtain ⟨c, hc, hget⟩ := l.config_ok h
    refine ⟨c.normalized, ?_, fun s => ?_⟩
    · rw [hload, hc]
      rfl
    · rw [get?_normalized, hget, Layers.value?_settles henv (h s)]
  have hsome : ∀ c, (load directory path found env).result = .ok c → ∀ s, l.Accepts s := by
    intro c hc s
    by_contra hs
    obtain ⟨e, he⟩ := l.config_error hs
    rw [hload, he] at hc
    exact nomatch hc
  refine ⟨⟨?_, ?_⟩, ?_, ?_, ?_⟩
  · rintro ⟨c, hc⟩ s
    exact (haccepts s).mp (hsome c hc s)
  · intro h
    obtain ⟨c, hc, -⟩ := hok fun s => (haccepts s).mpr (h s)
    exact ⟨c, hc⟩
  · intro c hc
    obtain ⟨c', hc', hget⟩ := hok (hsome c hc)
    obtain rfl := Except.ok.inj (hc.symm.trans hc')
    exact hget
  · intro c hc
    refine ⟨fs.configure c, ?_, Terminal.Flags.get?_configure fs (tidy_loaded hc)⟩
    unfold Terminal.Flags.configuration
    rw [hc]
    rfl
  · intro e he
    unfold Terminal.Flags.configuration
    rw [he]
    rfl

/-! ### A file and a variable -/

/-- The members of a file whose agent is an object, which nothing asks for. -/
def nestedMembers : Members :=
  [("agent_name", .object [("name", .text "a")]), ("other", .object []), ("user_label", .text " Me ")]

def nested : String := (Json.Value.object nestedMembers).compact

open Json.Reader (Reads reads_object reads_text) in
theorem parse_nested : Json.Value.parse nested = .ok (.object nestedMembers) := by
  have hnames : (["agent_name", "other", "user_label"] : List String).Pairwise (· < ·) := by decide
  have hagent : Reads (Json.Reader.value 126) (.object [("name", .text "a")]) := by
    refine reads_object (List.pairwise_singleton _ _) fun m hm => ?_
    obtain rfl := List.mem_singleton.mp hm
    exact reads_text 125 "a"
  refine Json.Value.parse_compact (reads_object (List.pairwise_map.mp hnames) fun m hm => ?_)
  simp only [nestedMembers, List.mem_cons, List.not_mem_nil, or_false] at hm
  obtain rfl | rfl | rfl := hm
  · exact hagent
  · exact reads_object List.Pairwise.nil fun m hm => absurd hm List.not_mem_nil
  · exact reads_text 126 " Me "

def answering : Environment := [("HOME", "/root"), ("Chatline_Agent_Name", " 42 ")]

theorem plain_answering : answering.Plain := by
  have hhome : Environment.key? "HOME" = none := by decide +kernel
  have hagent : Environment.key? "Chatline_Agent_Name" = some "agent_name".toList := by decide +kernel
  have hcases : ∀ v ∈ answering, ∀ key, Environment.key? v.1 = some key →
      v = ("Chatline_Agent_Name", " 42 ") ∧ key = "agent_name".toList := by
    intro v hv key hkey
    rcases List.mem_cons.mp hv with rfl | hv
    · exact nomatch hhome.symm.trans hkey
    · obtain rfl := List.mem_singleton.mp hv
      exact ⟨rfl, Option.some.inj (hkey.symm.trans hagent)⟩
  refine ⟨fun v hv key hkey => ?_, fun v hv v' hv' key hkey hkey' => ?_⟩
  · rw [(hcases v hv key hkey).2]
    decide
  · rw [(hcases v hv key hkey).1, (hcases v' hv' key hkey').1]

theorem load_layered_nested : Holds (.file nested) nestedMembers ∧ answering.Plain ∧
    Layered answering nestedMembers { endpoint? := some " ", agent? := some "me" }
      (load "/" "config.json" (.file nested) answering) := by
  have hfile : Holds (.file nested) nestedMembers := .object parse_nested
  exact ⟨hfile, plain_answering, load_layered hfile plain_answering "/" "config.json" _⟩

end Parley.Config

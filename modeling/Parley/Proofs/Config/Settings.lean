import Parley.Proofs.Config.Normalized

/-!
# Settings one by one

* `Config.get?` : a configuration as a function of its settings (`ext_get?`);
* `Setting.ofText`, `get?_normalized` : what normalizing makes of each setting;
* `Given.value?`, `set?_some`, `set?_none` : what a setting becomes by what is given for it;
* `Terminal.Flags.given?`, `get?_configure` : what the flags and the fallback of the terminal client make of each.
-/

namespace Parley

namespace Config

/-- The text of a setting; only the base URL can be missing. -/
def get? (c : Config) : Setting → Option String
  | .endpoint => some c.endpoint
  | .baseUrl => c.baseUrl
  | .agentName => some c.agentName
  | .sessionKey => some c.sessionKey
  | .userLabel => some c.userLabel
  | .failureMessage => some c.failureMessage

theorem ext_get? {c c' : Config} (h : ∀ s, c.get? s = c'.get? s) : c = c' := by
  obtain ⟨endpoint, baseUrl, agentName, sessionKey, userLabel, failureMessage⟩ := c
  have he := Option.some.inj (h .endpoint)
  have hb := h .baseUrl
  have ha := Option.some.inj (h .agentName)
  have hs := Option.some.inj (h .sessionKey)
  have hu := Option.some.inj (h .userLabel)
  have hf := Option.some.inj (h .failureMessage)
  dsimp only at he ha hs hu hf
  subst he ha hs hu hf
  simp only [get?] at hb
  subst hb
  rfl

/-- What a text says of a setting: it is trimmed, and the default stands in the place of a blank one. -/
def Setting.ofText (s : Setting) (text : String) : Option String :=
  if Text.trim text = "" then standard.get? s else some (Text.trim text)

theorem get?_normalized (c : Config) (s : Setting) :
    c.normalized.get? s = (c.get? s).elim (standard.get? s) s.ofText := by
  have htext : ∀ value fallback : String, some (nonBlankOr value fallback) =
      if Text.trim value = "" then some fallback else some (Text.trim value) := by
    intro value fallback
    unfold nonBlankOr
    dsimp only
    split <;> rfl
  rw [normalized_eq]
  cases s <;> simp only [get?, Option.elim_some, Setting.ofText]
  case baseUrl =>
    unfold cleaned
    cases c.baseUrl with
    | none => rfl
    | some url => simp [Option.filter_some, Setting.ofText, get?, standard]
  all_goals exact htext _ _

theorem Tidy.get? {c : Config} (h : c.Tidy) (s : Setting) : (c.get? s).elim (standard.get? s) s.ofText = c.get? s := by
  rw [← get?_normalized, h.normalized]

/-! ## What is given -/

/-- What a setting becomes; nothing if it cannot be that. -/
def Given.value? (s : Setting) : Given → Option (Option String)
  | .text content => some (some content)
  | .nothing => if s = .baseUrl then some none else none
  | .compound => none

theorem set?_none {c : Config} {s : Setting} {g : Given} (h : g.value? s = none) : c.set? s g = none := by
  cases g with
  | text => exact nomatch h
  | compound => cases s <;> rfl
  | nothing =>
    cases s with
    | baseUrl => exact nomatch h
    | _ => rfl

/-- The setting becomes what is given, and the others stay as they are. -/
theorem set?_some {c : Config} {s : Setting} {g : Given} {v : Option String} (h : g.value? s = some v) :
    ∃ c', c.set? s g = some c' ∧ ∀ s', c'.get? s' = if s' = s then v else c.get? s' := by
  cases g with
  | text content =>
    obtain rfl := Option.some.inj h
    cases s <;> refine ⟨_, rfl, ?_⟩ <;> intro s' <;> cases s' <;> rfl
  | compound => exact nomatch h
  | nothing =>
    cases s with
    | baseUrl =>
      obtain rfl := Option.some.inj h
      refine ⟨_, rfl, ?_⟩
      intro s'
      cases s' <;> rfl
    | _ => exact nomatch h

end Config

/-! ## Flags -/

namespace Terminal.Flags

open Config (Setting)

def given? (fs : Flags) : Setting → Option String
  | .baseUrl => fs.baseUrl?
  | .endpoint => fs.endpoint?
  | .agentName => fs.agent?
  | .sessionKey | .userLabel | .failureMessage => none

/-- What the client puts in the place of a setting that is missing. -/
def fallback? : Setting → Option String
  | .baseUrl => some fallbackBaseUrl
  | .endpoint | .agentName | .sessionKey | .userLabel | .failureMessage => none

theorem get?_override (fs : Flags) (c : Config) (s : Setting) :
    (fs.override c).get? s = (fs.given? s).or (c.get? s) := by
  have hflag : ∀ (flag : Option String) (text : String), some (flag.getD text) = flag.or (some text) := by
    intro flag text
    cases flag <;> rfl
  cases s with
  | baseUrl | sessionKey | userLabel | failureMessage => rfl
  | endpoint => exact hflag fs.endpoint? c.endpoint
  | agentName => exact hflag fs.agent? c.agentName

/-- A flag takes the place of what is configured, whether it says something or is blank. -/
theorem get?_configure (fs : Flags) {c : Config} (h : c.Tidy) (s : Setting) :
    (fs.configure c).get? s = ((fs.given? s).elim (c.get? s) s.ofText).or (fallback? s) := by
  have hnormalized : (fs.override c).normalized.get? s = (fs.given? s).elim (c.get? s) s.ofText := by
    rw [Config.get?_normalized, get?_override]
    cases fs.given? s with
    | none => exact h.get? s
    | some text => rfl
  rw [← hnormalized]
  unfold configure
  generalize (fs.override c).normalized = d
  cases s with
  | baseUrl => cases hb : d.baseUrl <;> simp [Config.get?, fallback?, hb]
  | _ => rfl

end Terminal.Flags

end Parley

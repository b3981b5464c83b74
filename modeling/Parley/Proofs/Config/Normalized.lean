import Parley.Proofs.Text.Blank
import Parley.Terminal.Flags

/-!
# Normal form

* `Config.Tidy` : no setting is blank or has blanks at its ends;
* `Config.tidy_normalized`, `Config.normalized_eq_self_iff` : what is normalized is tidy, and what is tidy stays as it is;
* `Terminal.Flags.tidy_configure` : the configuration of the terminal client is tidy, with the base URL that it falls back
  on when there is none.
-/

namespace Parley

open Text (Trimmed)

namespace Config

/-- Every setting says something, without blanks around it; there may be no base URL. -/
structure Tidy (c : Config) : Prop where
  endpoint : Trimmed c.endpoint
  baseUrl : ∀ url, c.baseUrl = some url → Trimmed url
  agentName : Trimmed c.agentName
  sessionKey : Trimmed c.sessionKey
  userLabel : Trimmed c.userLabel
  failureMessage : Trimmed c.failureMessage

theorem tidy_standard : standard.Tidy where
  endpoint := (Text.trimmed_iff _).mpr (by decide +kernel)
  baseUrl _ h := nomatch h
  agentName := (Text.trimmed_iff _).mpr (by decide +kernel)
  sessionKey := (Text.trimmed_iff _).mpr (by decide +kernel)
  userLabel := (Text.trimmed_iff _).mpr (by decide +kernel)
  failureMessage := (Text.trimmed_iff _).mpr (by decide +kernel)

theorem trimmed_nonBlankOr {fallback : String} (h : Trimmed fallback) (value : String) :
    Trimmed (nonBlankOr value fallback) := by
  unfold nonBlankOr
  dsimp only
  by_cases hv : Text.trim value = ""
  · rw [if_pos hv]
    exact h
  · rw [if_neg hv]
    exact Text.trimmed_trim hv

theorem nonBlankOr_of_trimmed {value : String} (h : Trimmed value) (fallback : String) :
    nonBlankOr value fallback = value := by
  obtain ⟨htrim, hne⟩ := (Text.trimmed_iff value).mp h
  unfold nonBlankOr
  dsimp only
  rw [htrim, if_neg hne]

def cleaned (url : Option String) : Option String := (url.map Text.trim).filter fun url => url != ""

theorem trimmed_cleaned {url : Option String} {u : String} (h : cleaned url = some u) : Trimmed u := by
  obtain ⟨hu, hne⟩ := Option.filter_eq_some_iff.mp h
  obtain ⟨v, -, rfl⟩ := Option.map_eq_some_iff.mp hu
  exact Text.trimmed_trim (bne_iff_ne.mp hne)

theorem cleaned_of_trimmed {url : Option String} (h : ∀ u, url = some u → Trimmed u) : cleaned url = url := by
  cases url with
  | none => rfl
  | some u =>
    obtain ⟨htrim, hne⟩ := (Text.trimmed_iff u).mp (h u rfl)
    rw [cleaned, Option.map_some, htrim]
    exact if_pos (bne_iff_ne.mpr hne)

theorem normalized_eq (c : Config) : c.normalized =
    ⟨nonBlankOr c.endpoint standard.endpoint, cleaned c.baseUrl, nonBlankOr c.agentName standard.agentName,
      nonBlankOr c.sessionKey standard.sessionKey, nonBlankOr c.userLabel standard.userLabel,
      nonBlankOr c.failureMessage standard.failureMessage⟩ := rfl

theorem tidy_normalized (c : Config) : c.normalized.Tidy := by
  have h := tidy_standard
  rw [normalized_eq]
  -- the settings are read off before the lemmas apply, so that nothing is unfolded to compare them
  constructor <;> dsimp only
  case endpoint => exact trimmed_nonBlankOr h.endpoint c.endpoint
  case baseUrl => exact fun _ => trimmed_cleaned
  case agentName => exact trimmed_nonBlankOr h.agentName c.agentName
  case sessionKey => exact trimmed_nonBlankOr h.sessionKey c.sessionKey
  case userLabel => exact trimmed_nonBlankOr h.userLabel c.userLabel
  case failureMessage => exact trimmed_nonBlankOr h.failureMessage c.failureMessage

theorem Tidy.normalized {c : Config} (h : c.Tidy) : c.normalized = c := by
  rw [normalized_eq, nonBlankOr_of_trimmed h.endpoint, cleaned_of_trimmed h.baseUrl, nonBlankOr_of_trimmed h.agentName,
    nonBlankOr_of_trimmed h.sessionKey, nonBlankOr_of_trimmed h.userLabel, nonBlankOr_of_trimmed h.failureMessage]

theorem normalized_eq_self_iff (c : Config) : c.normalized = c ↔ c.Tidy := by
  constructor
  · intro h
    rw [← h]
    exact c.tidy_normalized
  · intro h
    exact h.normalized

theorem normalized_normalized (c : Config) : c.normalized.normalized = c.normalized := c.tidy_normalized.normalized

end Config

namespace Terminal.Flags

open Config (Tidy)

theorem trimmed_fallbackBaseUrl : Trimmed fallbackBaseUrl := (Text.trimmed_iff _).mpr (by decide +kernel)

/-- The configuration of the terminal client is tidy, whatever is loaded. -/
theorem tidy_configure (fs : Flags) (c : Config) : (fs.configure c).Tidy := by
  have h := (fs.override c).tidy_normalized
  unfold configure
  generalize (fs.override c).normalized = d at h
  refine ⟨h.endpoint, ?_, h.agentName, h.sessionKey, h.userLabel, h.failureMessage⟩
  intro url hurl
  obtain rfl := Option.some.inj hurl
  cases hb : d.baseUrl with
  | none => exact trimmed_fallbackBaseUrl
  | some u => exact h.baseUrl u hb

theorem configure_of_configuration {fs : Flags} {loading : Config.Loading} {config : Config}
    (h : fs.configuration loading = .ok config) : ∃ c, loading.result = .ok c ∧ fs.configure c = config := by
  unfold configuration at h
  cases hr : loading.result with
  | error e =>
    rw [hr] at h
    exact nomatch h
  | ok c =>
    rw [hr] at h
    exact ⟨c, rfl, Except.ok.inj h⟩

theorem tidy_configuration {fs : Flags} {loading : Config.Loading} {config : Config}
    (h : fs.configuration loading = .ok config) : config.Tidy := by
  obtain ⟨c, -, rfl⟩ := configure_of_configuration h
  exact tidy_configure fs c

theorem normalized_configuration {fs : Flags} {loading : Config.Loading} {config : Config}
    (h : fs.configuration loading = .ok config) : config.normalized = config :=
  (tidy_configuration h).normalized

end Terminal.Flags

end Parley

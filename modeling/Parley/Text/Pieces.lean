/-!
# Cutting text at a separator

`pieces s cs` are the texts between the separators in `cs`. A text without separators in front of one is a piece of its
own (`pieces_append_separator`). They are what `List.splitOn` gives (`pieces_eq_splitOn`).
-/

namespace Parley.Text

/-- The pieces of a text between separators; an empty text has one empty piece. -/
def pieces (separator : Char) : List Char → List (List Char)
  | [] => [[]]
  | c :: cs =>
    if c = separator then [] :: pieces separator cs
    else
      match pieces separator cs with
      | [] => [[c]]
      | p :: ps => (c :: p) :: ps

theorem pieces_ne_nil (s : Char) : ∀ cs, pieces s cs ≠ []
  | [] => by simp [pieces]
  | c :: cs => by
    simp only [pieces]
    split
    · simp
    · split <;> simp

theorem pieces_append_separator {s : Char} (rest : List Char) :
    ∀ p : List Char, (∀ c ∈ p, c ≠ s) → pieces s (p ++ s :: rest) = p :: pieces s rest
  | [], _ => by simp [pieces]
  | c :: p, h => by
    have hc : c ≠ s := h c (by simp)
    rw [List.cons_append, pieces, if_neg hc, pieces_append_separator rest p fun x hx => h x (by simp [hx])]

theorem pieces_of_no_separator {s : Char} : ∀ p : List Char, (∀ c ∈ p, c ≠ s) → pieces s p = [p]
  | [], _ => rfl
  | c :: p, h => by
    have hc : c ≠ s := h c (by simp)
    rw [pieces, if_neg hc, pieces_of_no_separator p fun x hx => h x (by simp [hx])]

theorem pieces_eq_splitOn (s : Char) (cs : List Char) : pieces s cs = cs.splitOn s := by
  induction cs with
  | nil => exact (List.splitOn_nil s).symm
  | cons c cs ih =>
    rw [pieces, List.splitOn_cons_eq_if_modifyHead, ← ih]
    by_cases hc : c = s
    · simp [hc]
    · rw [if_neg hc, if_neg (by simpa using hc)]
      cases h : pieces s cs with
      | nil => exact absurd h (pieces_ne_nil s cs)
      | cons p ps => rfl

end Parley.Text

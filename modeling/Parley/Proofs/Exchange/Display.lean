import Parley.Proofs.Exchange.Reply

/-!
# What is shown for a reply

* `Value.compact_ne_empty` : no value is written as nothing;
* `Shown v s`, `shown_iff` : the four ways in which a body comes to be shown as a text, and that there is exactly one;
* `shows_something_local` : something is always shown, and it depends on the part of the body that it comes from alone.
-/

namespace Parley

/-! ## No value is written as nothing -/

namespace Decimal.Digits

theorem positional_ne_nil (ds : Digits) {whole : List Char} (h : whole ≠ []) : ds.positional whole ≠ [] := by
  unfold positional
  dsimp only
  split_ifs
  · exact List.cons_ne_nil _ _
  · exact List.append_ne_nil_of_right_ne_nil _ h
  · exact List.append_ne_nil_of_right_ne_nil _ (List.cons_ne_nil _ _)

theorem scientific_ne_nil (ds : Digits) : ds.scientific ≠ [] :=
  List.append_ne_nil_of_right_ne_nil _ (List.cons_ne_nil _ _)

end Decimal.Digits

namespace Binary64

theorem signed_ne_nil (negative : Bool) {cs : List Char} (h : cs ≠ []) : (signed negative cs).toList ≠ [] := by
  rw [signed, String.toList_ofList]
  split
  · exact List.cons_ne_nil _ _
  · exact h

theorem jsonText_ne_nil (x : Binary64) : x.jsonText.toList ≠ [] := by
  unfold jsonText
  split
  · decide
  · decide
  · exact signed_ne_nil _ (by decide)
  · refine signed_ne_nil _ ?_
    split
    · exact Decimal.Digits.positional_ne_nil _ (by decide)
    · exact Decimal.Digits.scientific_ne_nil _

end Binary64

namespace Json.Value

theorem chars_ne_nil (v : Value) : v.chars ≠ [] := by
  cases v with
  | null => decide
  | boolean b => cases b <;> decide
  | number n =>
    cases n with
    | integer n =>
      cases n with
      | ofNat n =>
        rw [chars_ofNat]
        exact Nat.toDigits_ne_nil
      | negSucc n =>
        rw [chars_negSucc]
        exact List.cons_ne_nil _ _
    | float x => exact x.jsonText_ne_nil
  | text s => exact List.cons_ne_nil _ _
  | array items => exact List.cons_ne_nil _ _
  | object members => exact List.cons_ne_nil _ _

theorem compact_ne_empty (v : Value) : v.compact ≠ "" := by
  intro h
  have hchars := congrArg String.toList h
  rw [compact, String.toList_ofList] at hchars
  exact v.chars_ne_nil hchars

end Json.Value

namespace Exchange

open Json (Members Value)

/-! ## Where the text comes from -/

/-- A body is shown as the output of its result, as its result, or as a whole. -/
inductive Shown (v : Value) : String → Prop
  | output {r : Value} {s : String} (hr : v.member? "result" = some r) (ho : r.member? "output" = some (.text s))
      (hs : s ≠ "") : Shown v s
  | text {s : String} (hr : v.member? "result" = some (.text s)) (hs : s ≠ "") : Shown v s
  | result {r : Value} (hr : v.member? "result" = some r) (h : Outputless r) : Shown v r.compact
  | body (h : Resultless v) : Shown v v.compact

variable {v r : Value} {s : String}

theorem result?_of_member? (hr : v.member? "result" = some r) (h : isEmptyResult r = false) : result? v = some r := by
  simp [result?, hr, h]

theorem replyText_output (hr : v.member? "result" = some r) (ho : r.member? "output" = some (.text s)) (hs : s ≠ "") :
    replyText v = s := by
  have hobject : isEmptyResult r = false := by
    cases r with
    | object rs => rfl
    | _ => exact nomatch ho
  have houtput : output? r = some s := by simp [output?, ho, Value.text?, hs]
  rw [replyText, result?_of_member? hr hobject]
  dsimp only
  rw [houtput]

theorem replyText_text (hr : v.member? "result" = some (.text s)) (hs : s ≠ "") : replyText v = s := by
  rw [replyText, result?_of_member? hr (by simp [isEmptyResult, hs])]
  rfl

theorem Shown.eq (h : Shown v s) : replyText v = s := by
  cases h with
  | output hr ho hs => exact replyText_output hr ho hs
  | text hr hs => exact replyText_text hr hs
  | result hr h => exact replyText_outputless hr h
  | body h => exact replyText_resultless h

/-- A result that is neither `null` nor the empty text is shown in one of three ways. -/
theorem shown_of_result (hr : v.member? "result" = some r) (h : isEmptyResult r = false) : ∃ s, Shown v s := by
  cases r with
  | null => exact nomatch h
  | text s => exact ⟨s, .text hr fun hs => by simp [isEmptyResult, hs] at h⟩
  | boolean b => exact ⟨_, .result hr (.boolean b)⟩
  | number n => exact ⟨_, .result hr (.number n)⟩
  | array vs => exact ⟨_, .result hr (.array vs)⟩
  | object rs =>
    by_cases hout : ∃ s, Members.find? rs "output" = some (.text s) ∧ s ≠ ""
    · obtain ⟨s, ho, hs⟩ := hout
      exact ⟨s, .output hr ho hs⟩
    · exact ⟨_, .result hr (.object fun s ho => Decidable.not_not.mp fun hs => hout ⟨s, ho, hs⟩)⟩

theorem exists_shown (v : Value) : ∃ s, Shown v s := by
  cases h : result? v with
  | none => exact ⟨_, .body ((result?_eq_none_iff v).mp h)⟩
  | some r =>
    obtain ⟨hr, hempty⟩ := Option.filter_eq_some_iff.mp h
    exact shown_of_result hr (by simpa using hempty)

theorem shown_iff : Shown v s ↔ replyText v = s := by
  constructor
  · exact Shown.eq
  · rintro rfl
    obtain ⟨s, hs⟩ := exists_shown v
    rwa [hs.eq]

theorem Shown.ne_empty (h : Shown v s) : s ≠ "" := by
  cases h with
  | output hr ho hs => exact hs
  | text hr hs => exact hs
  | result hr h => exact Value.compact_ne_empty _
  | body h => exact Value.compact_ne_empty _

/-- Something is shown for every body. It is the output of the result, if that is a text, and not the empty one, else
the result, a text as it stands; other members make no difference. A body without a result is shown as a whole. -/
theorem shows_something_local :
    (∀ v, replyText v ≠ "") ∧
    (∀ v v' r, v.member? "result" = some r → v'.member? "result" = some r → r ≠ .null → r ≠ .text "" →
      replyText v = replyText v') ∧
    (∀ v r s, v.member? "result" = some r → r.member? "output" = some (.text s) → s ≠ "" → replyText v = s) ∧
    (∀ v, Resultless v → replyText v = v.compact) ∧
    (∀ v s, v.member? "result" = some (.text s) → s ≠ "" → replyText v = s) ∧
    ∀ v r, v.member? "result" = some r → Outputless r → replyText v = r.compact := by
  refine ⟨fun v => (shown_iff.mpr rfl).ne_empty, ?_, ?_, ?_, ?_, ?_⟩
  · intro v v' r hr hr' hnull hempty
    have hshown : isEmptyResult r = false := by
      rw [Bool.eq_false_iff, Ne, isEmptyResult_iff]
      exact not_or_intro hnull hempty
    rw [replyText, replyText, result?_of_member? hr hshown, result?_of_member? hr' hshown]
  · exact fun v r s hr ho hs => (Shown.output hr ho hs).eq
  · exact fun v h => (Shown.body h).eq
  · exact fun v s hr hs => (Shown.text hr hs).eq
  · exact fun v r hr h => (Shown.result hr h).eq

/-- An output in a body that tells of an error, a result with an output that is no text, and the body that is a list of
the two. -/
theorem shows_something_local_greetings :
    let greeting := Value.object [("output", .text "\"hi\""), ("tokens", .ofInt 3)]
    let wrong := Value.object [("output", .ofInt 3)]
    replyText (.object [("error", .text "none"), ("result", greeting)]) = "\"hi\"" ∧
      replyText (.object [("result", wrong)]) = wrong.compact ∧
      replyText (.object [("error", .null), ("result", wrong)]) = replyText (.object [("result", wrong)]) ∧
      replyText (.object [("result", .text "null")]) = "null" ∧
      replyText (.array [greeting, wrong]) = (Value.array [greeting, wrong]).compact := by
  intro greeting wrong
  have houtputless : Outputless wrong := .object fun s hs => nomatch hs
  obtain ⟨-, hsame, houtput, hbody, htext, hresult⟩ := shows_something_local
  refine ⟨?_, ?_, ?_, ?_, ?_⟩
  · exact houtput _ greeting _ rfl rfl (by decide)
  · exact hresult _ wrong rfl houtputless
  · exact hsame _ _ wrong rfl rfl (fun h => nomatch h) (fun h => nomatch h)
  · exact htext _ "null" rfl (by decide)
  · exact hbody _ (.other fun ms h => nomatch h)

end Exchange

end Parley

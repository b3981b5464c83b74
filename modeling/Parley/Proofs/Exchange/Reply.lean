import Mathlib
import Parley.Exchange.Reply
import Parley.Proofs.Json.Tree

/-!
# A reply without words loses nothing

* `fits_of_decodeBody`, `decodeBody_compact` : what a body was read as is not too deep, and then its own text is read as
  the same value;
* `Resultless`, `result?_eq_none_iff`, `replyText_resultless` : the bodies that are shown as a whole;
* `Outputless`, `replyText_outputless` : the results that are shown as a whole;
* `fallback_lossless` : what is shown then is read as what was shown.
-/

namespace Parley.Exchange

open Json (Members Value Reader.maxDepth Reader.of_mapError_ok)

/-! ## Bodies and their texts -/

/-- No accepted body has more containers open at once than a reader can take. -/
theorem fits_of_decodeBody {raw : String} {v : Value} (h : decodeBody raw = .ok v) : v.Fits Reader.maxDepth :=
  Value.fits_parse (Reader.of_mapError_ok h)

/-- A value that is not too deep is read again from its own text. -/
theorem decodeBody_compact {v : Value} (fits : v.Fits Reader.maxDepth) (whole : v.Whole) :
    decodeBody v.compact = .ok v := by
  rw [decodeBody, Value.parse_compact (fits.reads whole)]
  rfl

/-! ## What is shown as a whole -/

/-- A body without a result to show: it is no object, or its `result` is missing, `null` or the empty text. -/
inductive Resultless : Value → Prop
  | other {v : Value} (noObject : ∀ ms, v ≠ .object ms) : Resultless v
  | missing {ms : Members} (h : Members.find? ms "result" = none) : Resultless (.object ms)
  | null {ms : Members} (h : Members.find? ms "result" = some .null) : Resultless (.object ms)
  | empty {ms : Members} (h : Members.find? ms "result" = some (.text "")) : Resultless (.object ms)

/-- A result that is no text and has no output to show: an array, a number or a boolean, or an object in which no text
but the empty one stands under `output`. -/
inductive Outputless : Value → Prop
  | array (vs : List Value) : Outputless (.array vs)
  | number (n : Json.Number) : Outputless (.number n)
  | boolean (b : Bool) : Outputless (.boolean b)
  | object {ms : Members} (h : ∀ s, Members.find? ms "output" = some (.text s) → s = "") : Outputless (.object ms)

theorem isEmptyResult_iff (v : Value) : isEmptyResult v = true ↔ v = .null ∨ v = .text "" := by
  cases v <;> simp [isEmptyResult]

theorem result?_eq_none_iff (v : Value) : result? v = none ↔ Resultless v := by
  constructor
  · intro h
    cases v with
    | object ms =>
      cases hfind : Members.find? ms "result" with
      | none => exact .missing hfind
      | some r =>
        have hempty : isEmptyResult r = true := by simpa [result?, Value.member?, hfind] using h
        obtain rfl | rfl := (isEmptyResult_iff r).mp hempty
        · exact .null hfind
        · exact .empty hfind
    | _ => exact .other fun ms => Value.noConfusion
  · intro h
    cases h with
    | other noObject =>
      cases v with
      | object ms => exact absurd rfl (noObject ms)
      | _ => rfl
    | missing h | null h | empty h => simp [result?, Value.member?, h, isEmptyResult]

theorem replyText_resultless {v : Value} (h : Resultless v) : replyText v = v.compact := by
  rw [replyText, (result?_eq_none_iff v).mpr h]

theorem Outputless.not_empty {r : Value} (h : Outputless r) : isEmptyResult r = false := by
  cases h <;> rfl

theorem Outputless.output? {r : Value} (h : Outputless r) : output? r = none := by
  cases h with
  | object h =>
    refine Option.filter_eq_none_iff.mpr fun s hs => ?_
    obtain ⟨t, hfind, htext⟩ := Option.bind_eq_some_iff.mp hs
    cases t with
    | text t =>
      obtain rfl : t = s := Option.some.inj htext
      simp [h t hfind]
    | _ => exact nomatch htext
  | _ => rfl

theorem replyText_outputless {v r : Value} (hr : v.member? "result" = some r) (h : Outputless r) :
    replyText v = r.compact := by
  have hresult : result? v = some r := by simp [result?, hr, h.not_empty]
  rw [replyText, hresult]
  dsimp only
  rw [h.output?]
  cases h <;> rfl

/-- Where all numbers are whole and have 64 bits, a body that is shown as a whole is read from what is shown as the
body that it was, a result that is shown as a whole as that result; and from what was read the same text is written
again. -/
theorem fallback_lossless {raw : String} {v : Value} (accepted : decodeBody raw = .ok v) (whole : v.Whole) :
    (Resultless v → decodeBody (replyText v) = .ok v ∧ v.compact = replyText v) ∧
    ∀ r, v.member? "result" = some r → Outputless r →
      decodeBody (replyText v) = .ok r ∧ r.compact = replyText v := by
  have fits := fits_of_decodeBody accepted
  constructor
  · intro h
    rw [replyText_resultless h]
    exact ⟨decodeBody_compact fits whole, rfl⟩
  · intro r hr h
    rw [replyText_outputless hr h]
    exact ⟨decodeBody_compact (fits.of_member? hr) (whole.of_member? hr), rfl⟩

/-- The largest whole number and the smallest, and an output that says nothing. -/
def sums : Value :=
  .object [("output", .text ""), ("sums", .array [.ofInt 18446744073709551615, .ofInt (-9223372036854775808)])]

/-- A text of this value with its members out of order, and one of them given twice. -/
def sumsText : String :=
  "\x7b \"sums\": [18446744073709551615, -9223372036854775808], \"output\": 1, \"output\": \"\" \x7d"

theorem whole_sums : sums.Whole := by
  refine .object (List.forall_mem_cons.mpr ⟨.text "", List.forall_mem_singleton.mpr (.array ?_)⟩)
  refine List.forall_mem_cons.mpr ⟨?largest, List.forall_mem_singleton.mpr ?smallest⟩
  case largest => exact .number (by decide) (by decide)
  case smallest => exact .number (by decide) (by decide)

theorem outputless_sums : Outputless sums := by
  refine .object fun s hs => ?_
  obtain rfl : "" = s := by simpa [Members.find?] using hs
  rfl

theorem fallback_lossless_sums :
    (decodeBody sumsText = .ok sums ∧ sums.Whole ∧ Resultless sums ∧ decodeBody (replyText sums) = .ok sums) ∧
      decodeBody ("\x7b\"result\": " ++ sumsText ++ "\x7d") = .ok (.object [("result", sums)]) ∧ Outputless sums ∧
      decodeBody (replyText (.object [("result", sums)])) = .ok sums := by
  have hbody : decodeBody sumsText = .ok sums := by cbv
  have hresult : decodeBody ("\x7b\"result\": " ++ sumsText ++ "\x7d") = .ok (.object [("result", sums)]) := by cbv
  have hresultless : Resultless sums := .missing (by decide)
  have hwhole : (Value.object [("result", sums)]).Whole := .object (List.forall_mem_singleton.mpr whole_sums)
  refine ⟨⟨hbody, whole_sums, hresultless, ?_⟩, hresult, outputless_sums, ?_⟩
  · exact ((fallback_lossless hbody whole_sums).1 hresultless).1
  · exact ((fallback_lossless hresult hwhole).2 sums rfl outputless_sums).1

end Parley.Exchange

import Parley.Exchange.Script

/-!
# Prepared answers

`Script.Offers` : an answer is prepared, or was taken. Whoever is answered is answered so (`Offers.of_next`,
`Offers.of_answer`), and no answer is lost (`Offers.take`, `Offers.prepare`, `Offers.release`).
-/

namespace Parley.Exchange.Script

variable {α : Type}

def Offers (s : Script α) (a : α) : Prop := .ready a ∈ s.queue ∨ some a ∈ s.taken ∨ a = s.last

theorem Offers.of_next {s : Script α} {a : α} (h : s.next = some a) : s.Offers a := by
  unfold next at h
  split at h
  · exact .inr (.inr (Option.some.inj h).symm)
  · next hq =>
    obtain rfl := Option.some.inj h
    exact .inl (hq ▸ List.mem_cons_self)
  · exact nomatch h

theorem Offers.of_answer {s : Script α} {n : Nat} {a : α} (h : s.answer? n = some a) : s.Offers a := by
  unfold answer? at h
  split at h
  · exact .inr (.inl (List.mem_of_getElem? (Option.join_eq_some_iff.mp h)))
  · exact .of_next h

theorem Offers.take {s : Script α} {a : α} (h : s.Offers a) : s.take.Offers a := by
  obtain hq | ht | hl := h
  · cases hs : s.queue with
    | nil => exact (List.not_mem_nil (hs ▸ hq)).elim
    | cons p ps =>
      rw [hs] at hq
      rcases List.mem_cons.mp hq with rfl | hq
      · have hnext : s.next = some a := by rw [next, hs]
        exact .inr (.inl (List.mem_append_right _ (hnext ▸ List.mem_singleton_self _)))
      · have htail : s.take.queue = ps := by
          show s.queue.tail = ps
          rw [hs]
          rfl
        exact .inl (htail ▸ hq)
  · exact .inr (.inl (List.mem_append_left _ ht))
  · exact .inr (.inr hl)

theorem Offers.prepare {s : Script α} {a : α} (h : s.Offers a) (p : Prepared α) : (s.prepare p).Offers a :=
  h.imp_left (List.mem_append_left _)

theorem Offers.release {s s' : Script α} {n : Nat} {a a' : α} (h : s.Offers a) (hr : s.release? n a' = some s') :
    s'.Offers a := by
  unfold release? at hr
  split at hr
  · next hn =>
    obtain rfl := Option.some.inj hr
    refine h.imp_right (Or.imp_left fun ht => ?_)
    obtain ⟨k, hk⟩ := List.mem_iff_getElem?.mp ht
    have hne : n ≠ k := by
      rintro rfl
      exact nomatch hn.symm.trans hk
    exact List.mem_of_getElem? ((List.getElem?_set_ne hne).trans hk)
  · exact nomatch hr

end Parley.Exchange.Script

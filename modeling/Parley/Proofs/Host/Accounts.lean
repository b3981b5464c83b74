import Parley.Proofs.Host.Run

/-!
# The accounts of a run

Every exchange has an `Account`: its entries in the transcript, the notices it caused, and what its polling returned.
`Accounts` says which account goes with which state.

* `deedAccount`, `account_comes` : what a turn adds to the account of an exchange;
* `Accounts.deed` : a deed leaves the account of every exchange in step with its state;
* `Run.books` : the accounts of every run.
-/

namespace Parley

open Controller (Talk Deed Does Pending Reply)
open Exchange (State any_not_isSettled)
open Transcript (Entry Role ViewCall)

namespace Turn

def noticesOf (t : Turn Host Host.Move) (i : Exchange.Id) : List String :=
  if t.polled?.map Pending.exchange = some i then t.notices else []

def returned? (t : Turn Host Host.Move) (i : Exchange.Id) : Option (Except Exchange.Error Reply) :=
  t.ended?.bind fun e => if e.1 = i then some e.2 else none

end Turn

namespace Host

/-- What a run holds about one exchange. -/
structure Account where
  users : Nat := 0
  bots : Nat := 0
  spacers : Nat := 0
  notices : List String := []
  returned : List (Except Exchange.Error Reply) := []

namespace Account

/-- What two parts of a run hold together. -/
def plus (a b : Account) : Account :=
  ⟨a.users + b.users, a.bots + b.bots, a.spacers + b.spacers, a.notices ++ b.notices, a.returned ++ b.returned⟩

/-- How many entries of a kind there are. -/
def tags (a : Account) : Role → Nat
  | .user => a.users
  | .bot => a.bots
  | .spacer => a.spacers

@[simp] theorem plus_empty (a : Account) : a.plus {} = a := by
  simp [plus]

end Account

/-- The account that goes with the state of an exchange. -/
inductive Accounts (failureMessage : String) : Option State → Account → Prop
  /-- Nothing is held of an exchange that was never made. -/
  | unknown : Accounts failureMessage none {}
  | awaiting : Accounts failureMessage (some .awaiting) { users := 1 }
  | delivered (reply : Reply) : Accounts failureMessage (some .delivered)
      { users := 1, bots := 1, spacers := 1, returned := [.ok reply] }
  /-- A failed exchange was told of once; its state holds the message of the error. -/
  | failed (e : Exchange.Error) : Accounts failureMessage (some (.failed e.message))
      { users := 1, notices := [failureMessage], returned := [.error e] }

/-- An exchange ends at most once, and is told of at most once. -/
theorem Accounts.once {failureMessage : String} {s : Option State} {a : Account} (h : Accounts failureMessage s a) :
    a.returned.length ≤ 1 ∧ a.notices.length ≤ 1 := by
  cases h <;> simp

/-- How many entries of a kind belong to an exchange. -/
def tagged (role : Role) (i : Exchange.Id) (es : List Entry) : Nat :=
  es.countP fun e => e.role = role ∧ e.exchange = some i

/-- What entries and turns hold about an exchange. -/
def account (es : List Entry) (ts : List (Turn Host Move)) (i : Exchange.Id) : Account where
  users := tagged .user i es
  bots := tagged .bot i es
  spacers := tagged .spacer i es
  notices := ts.flatMap (·.noticesOf i)
  returned := ts.filterMap (·.returned? i)

theorem account_append (es fs : List Entry) (ts us : List (Turn Host Move)) (i : Exchange.Id) :
    account (es ++ fs) (ts ++ us) i = (account es ts i).plus (account fs us i) := by
  simp [account, Account.plus, tagged]

/-! ## What a turn adds -/

/-- What a deed of `c` adds to the account of an exchange. -/
def deedAccount (c : Controller) (i : Exchange.Id) : Deed → Account
  | .opened p => if p.exchange = i then { users := 1 } else {}
  | .delivered id body =>
    if id = i then
      { bots := 1, spacers := 1
        returned := [.ok ⟨id, Exchange.replyText body, c.renderer.render (Exchange.replyText body)⟩] }
    else {}
  | .failed id e => if id = i then { notices := [c.config.failureMessage], returned := [.error e] } else {}
  | .quiet | .scrolled => {}

theorem tagged_eq (role : Role) (i : Exchange.Id) (es : List Entry) :
    tagged role i es = (es.map Entry.said).countP fun s => s.1 = role ∧ s.2.2 = some i := by
  rw [tagged, List.countP_map]
  rfl

theorem noticesOf_comes {t : Turn Host Move} {d : Deed} (h : t.Comes d) (i : Exchange.Id) :
    t.noticesOf i = (deedAccount t.before i d).notices := by
  unfold Turn.noticesOf
  rw [h.does.notices]
  cases d with
  | quiet | scrolled => exact ite_self _
  | opened p | delivered id body =>
    rw [deedAccount, Deed.notices, ite_self]
    split <;> rfl
  | failed id e =>
    rw [h.polled id rfl, deedAccount]
    by_cases hi : id = i
    · rw [if_pos hi, if_pos (congrArg some hi)]
      rfl
    · rw [if_neg hi, if_neg fun hs => hi (Option.some.inj hs)]

theorem returned?_comes {t : Turn Host Move} {d : Deed} (h : t.Comes d) (i : Exchange.Id) :
    (t.returned? i).toList = (deedAccount t.before i d).returned := by
  unfold Turn.returned?
  rw [h.ended]
  cases d with
  | quiet | scrolled => rfl
  | opened p =>
    rw [deedAccount]
    split <;> rfl
  | delivered id body | failed id e =>
    rw [deedAccount]
    show Option.toList (if id = i then _ else none) = _
    split <;> rfl

/-- The user's entry belongs to the exchange that is made, and those of a reply to the one that is delivered. -/
theorem tagged_said (c : Controller) (d : Deed) (role : Role) (i : Exchange.Id) :
    ((d.said c).countP fun s => s.1 = role ∧ s.2.2 = some i) = (deedAccount c i d).tags role := by
  cases d with
  | quiet | scrolled => cases role <;> rfl
  | opened p =>
    rw [deedAccount]
    by_cases hi : p.exchange = i <;> cases role <;> simp [Deed.said, Account.tags, hi]
  | delivered id body =>
    rw [deedAccount]
    by_cases hi : id = i <;> cases role <;> simp [Deed.said, Account.tags, hi]
  | failed id e =>
    rw [deedAccount]
    split <;> cases role <;> rfl

theorem account_comes {t : Turn Host Move} {d : Deed} (h : t.Comes d) (i : Exchange.Id) :
    account t.rendered [t] i = deedAccount t.before i d := by
  have hr : [t].filterMap (·.returned? i) = (t.returned? i).toList := by
    rw [List.filterMap_cons]
    cases t.returned? i <;> rfl
  have ht : ∀ role, tagged role i t.rendered = (deedAccount t.before i d).tags role := fun role => by
    rw [tagged_eq, Turn.rendered, h.does.said, tagged_said]
  rw [account, ht, ht, ht, List.flatMap_singleton, noticesOf_comes h, hr, returned?_comes h]
  rfl

/-! ## Every deed keeps the accounts -/

variable {c : Controller} {t : Talk} {d : Deed} {vs : List ViewCall} {ns : List String}

/-- When one exchange gets another state, its account grows, and every other account stays as it is. -/
theorem Accounts.mark {failureMessage : String} {i j : Exchange.Id} {old : Option State} {s : State} {a more : Account}
    (h : Accounts failureMessage old a) (hj : j = i → Accounts failureMessage (some s) (a.plus more)) :
    Accounts failureMessage (if i = j then some s else old) (a.plus (if j = i then more else {})) := by
  by_cases hi : j = i
  · rw [if_pos hi, if_pos hi.symm]
    exact hj hi
  · rw [if_neg hi, if_neg fun he => hi he.symm, Account.plus_empty]
    exact h

/-- A deed leaves the account of every exchange in step with its state. -/
theorem Accounts.deed {i : Exchange.Id} {a : Account}
    (h : Accounts c.config.failureMessage (c.tracker.state? i) a) (hs : c.talk.Sound) (hd : Does c d t vs ns) :
    Accounts c.config.failureMessage (t.tracker.state? i) (a.plus (deedAccount c i d)) := by
  have hstate := hd.state? hs i
  cases hd with
  | quiet | scrolled | phased =>
    rw [deedAccount, Account.plus_empty]
    exact h
  | opened =>
    rw [deedAccount, hstate]
    refine h.mark fun hi => ?_
    have hnone : c.tracker.state? i = none := hi ▸ hs.numbered.state?_next
    rw [hnone] at h
    cases h
    exact .awaiting
  | delivered hp live =>
    rw [deedAccount, hstate]
    refine h.mark fun hi => ?_
    have hawaiting : c.tracker.state? i = some .awaiting := hi ▸ hs.awaited_at hp live
    rw [hawaiting] at h
    cases h
    exact .delivered _
  | failed hp live =>
    rw [deedAccount, hstate]
    refine h.mark fun hi => ?_
    have hawaiting : c.tracker.state? i = some .awaiting := hi ▸ hs.awaited_at hp live
    rw [hawaiting] at h
    cases h
    exact .failed _

namespace Run

variable (r : Run)

/-- What a run holds about an exchange. -/
def account (i : Exchange.Id) : Account := Host.account r.chat.transcript.entries r.turns i

theorem accounts_account (i : Exchange.Id) :
    Accounts r.chat.config.failureMessage (r.chat.exchangeState? i) (r.account i) := by
  refine r.induction (P := fun ts c => Accounts c.config.failureMessage (c.exchangeState? i)
    (Host.account c.transcript.entries ts i)) .unknown fun ts t d hs hd h => ?_
  have he : t.after.transcript.entries = t.before.transcript.entries ++ t.rendered := hd.does.entries
  have hc : t.after.config = t.before.config := hd.does.settings.1
  rw [he, hc, account_append, account_comes hd]
  exact h.deed hs.sound hd.does

theorem length_notices :
    (r.turns.flatMap Turn.notices).length = r.chat.tracker.count State.isFailed := by
  refine r.induction (P := fun ts c => (ts.flatMap Turn.notices).length = c.tracker.count State.isFailed)
    rfl fun ts t d hs hd h => ?_
  have hc : t.after.tracker.count State.isFailed = _ := hd.does.count_isFailed hs.sound
  rw [List.flatMap_append, List.length_append, List.flatMap_singleton, h, hc]

/-- How an exchange ended whose polling returned `x`. -/
def outcomeOf (x : Except Exchange.Error Reply) : Exchange.Outcome :=
  match x with
  | .ok _ => .delivered
  | .error e => .failed e.message

/-- The accounts of a run agree with the states of its exchanges. -/
structure Books : Prop where
  accounts : ∀ i, Accounts r.chat.config.failureMessage (r.chat.exchangeState? i) (r.account i)
  /-- An exchange has a state from the moment on in which it was made. -/
  known : ∀ i, (r.chat.exchangeState? i).isSome ↔ i ∈ r.opened
  /-- No exchange is made twice. -/
  numbered : r.opened = List.range' 1 r.opened.length
  notices : (r.turns.flatMap Turn.notices).length =
    r.opened.countP fun i => (r.chat.exchangeState? i).any State.isFailed
  inFlight : r.chat.inFlight = r.opened.countP fun i => r.chat.exchangeState? i = some .awaiting
  /-- Whoever comes to its end awaited its response, and its outcome is not rejected. -/
  settled : ∀ t ∈ r.turns, ∀ i x, t.ended? = some (i, x) → t.before.exchangeState? i = some .awaiting ∧
    t.before.tracker.settle i (outcomeOf x) = .ok t.after.tracker

theorem count_eq (p : State → Bool) :
    r.chat.tracker.count p = r.opened.countP fun i => (r.chat.exchangeState? i).any p := by
  rw [r.opened_eq]
  exact r.sound.numbered.count_eq p

/-- However a chat is used, its accounts are right. -/
theorem books : r.Books where
  accounts := r.accounts_account
  known i := by
    rw [r.opened_eq, List.mem_range'_1, Nat.add_comm 1, Nat.lt_succ_iff]
    exact r.sound.numbered.isSome_state? i
  numbered := by
    rw [r.opened_eq, List.length_range']
  notices := by
    rw [r.length_notices, r.count_eq]
  inFlight := by
    have hb : r.chat.tracker.inFlight = r.chat.tracker.count fun s => !s.isSettled := r.sound.balanced
    rw [Controller.inFlight, hb, r.count_eq]
    simp only [any_not_isSettled]
  settled t ht i x hx := by
    have hs := (r.steady_before ht).sound
    obtain ⟨d, hd⟩ := t.comes
    rw [hd.ended] at hx
    cases d with
    | quiet | scrolled | opened => exact nomatch hx
    | delivered | failed =>
      obtain ⟨rfl, rfl⟩ := Prod.mk.inj (Option.some.inj hx)
      obtain ⟨hawaiting, htracker⟩ := hd.does.settles hs rfl
      have hafter : t.after.tracker = _ := htracker
      rw [hafter]
      exact ⟨hawaiting, Exchange.Tracker.settle_awaiting hawaiting _⟩

end Run

end Host

end Parley

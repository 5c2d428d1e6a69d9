/-!
# `Calls.Mailbox` — mail that is for whoever holds the box

A mailbox has a holder, who will take what is in it, and something in it may have been posted by another.
Holders come and go, and mail is kept across them.  The mail is the holder's own as long as a new holder
finds the box empty and nobody posts into a box that is held by another.
-/

namespace Calls

variable {ι : Type}

/-- **A mailbox**: who holds it, and who posted what is in it. -/
structure Mailbox (ι : Type) where
  holder : Option ι
  sender : Option ι

namespace Mailbox

/-- **The mail is the holder's own.** -/
def Own (m : Mailbox ι) : Prop :=
  ∀ i j, m.holder = some i → m.sender = some j → j = i

/-- **The moves that keep it so.** -/
inductive Move : Mailbox ι → Mailbox ι → Prop where
  | opened {m : Mailbox ι} (i : ι) (hempty : m.sender = none) : Move m { m with holder := some i }
  | closed {m : Mailbox ι} : Move m { m with holder := none }
  | posted {m : Mailbox ι} (i : ι) (hown : ∀ j, m.holder = some j → i = j) :
      Move m { m with sender := some i }
  | emptied {m : Mailbox ι} : Move m { m with sender := none }

variable {m m' : Mailbox ι}

theorem own_of_unheld (h : m.holder = none) : m.Own := by
  intro i j hholder _
  rw [h] at hholder
  cases hholder

theorem own_of_empty (h : m.sender = none) : m.Own := by
  intro i j _ hsender
  rw [h] at hsender
  cases hsender

/-- The holder and the sender stay, or go. -/
theorem Own.of_kept (h : m.Own) (hholder : ∀ i, m'.holder = some i → m.holder = some i)
    (hsender : ∀ j, m'.sender = some j → m.sender = some j) : m'.Own := by
  intro i j hi hj
  exact h i j (hholder i hi) (hsender j hj)

/-- **What is in the box after a move is the holder's own.** -/
theorem Move.own (hmove : Move m m') : m'.Own := by
  cases hmove with
  | opened i hempty => exact own_of_empty hempty
  | closed => exact own_of_unheld rfl
  | posted i hown =>
    intro j k hholder hsender
    rw [← Option.some.inj hsender]
    exact hown j hholder
  | emptied => exact own_of_empty rfl

end Mailbox

end Calls

import RestoreOperator.Calls.Prog

/-!
# `Calls.Avoids` — programs that do not make a call

A program does not make a call from a state, under some replies, when how that call would end makes no
difference to it.  There is one rule for each way of building a program.
-/

namespace Calls

namespace Prog

variable {κ σ ε α β : Type} {ρ : κ → Reply ε} {c : κ} {s : σ}

/-- **The program does not make the call**, started in that state under those replies. -/
def Avoids (ρ : κ → Reply ε) (c : κ) (m : Prog κ σ ε α) (s : σ) : Prop :=
  ∀ ρ' : κ → Reply ε, (∀ c', c' ≠ c → ρ' c' = ρ c') → m ρ' s = m ρ s

namespace Avoids

theorem ret (a : α) : Avoids ρ c (Prog.ret a : Prog κ σ ε α) s := fun _ _ => rfl

theorem fail (e : ε) : Avoids ρ c (Prog.fail e : Prog κ σ ε α) s := fun _ _ => rfl

theorem get : Avoids ρ c (Prog.get : Prog κ σ ε σ) s := fun _ _ => rfl

theorem modify (f : σ → σ) : Avoids ρ c (Prog.modify f : Prog κ σ ε Unit) s := fun _ _ => rfl

theorem call {c' : κ} (f : σ → σ) (h : c' ≠ c) :
    Avoids ρ c (Prog.call c' f : Prog κ σ ε Unit) s := by
  intro ρ' hsame
  unfold Prog.call
  rw [hsame c' h]

theorem read {c' : κ} (g : σ → α) (h : c' ≠ c) : Avoids ρ c (Prog.read c' g : Prog κ σ ε α) s := by
  intro ρ' hsame
  unfold Prog.read
  rw [hsame c' h]

theorem ask {c' : κ} (a : α) (h : c' ≠ c) : Avoids ρ c (Prog.ask c' a : Prog κ σ ε α) s :=
  read _ h

theorem bind {m : Prog κ σ ε α} {f : α → Prog κ σ ε β} (hm : Avoids ρ c m s)
    (hf : ∀ a s', m ρ s = .done a s' → Avoids ρ c (f a) s') : Avoids ρ c (m >>= f) s := by
  intro ρ' hsame
  rw [bind_eq_andThen]
  unfold andThen
  rw [hm ρ' hsame]
  cases hr : m ρ s with
  | done a s' => exact hf a s' hr ρ' hsame
  | failed e s' => rfl
  | halted s' => rfl

theorem attempt {m : Prog κ σ ε α} (hm : Avoids ρ c m s) : Avoids ρ c (Prog.attempt m) s := by
  intro ρ' hsame
  unfold Prog.attempt
  rw [hm ρ' hsame]

theorem bestEffort {m : Prog κ σ ε Unit} (hm : Avoids ρ c m s) :
    Avoids ρ c (Prog.bestEffort m) s := by
  intro ρ' hsame
  unfold Prog.bestEffort
  rw [hm ρ' hsame]

theorem when {b : Bool} {m : Prog κ σ ε Unit} (hm : b = true → Avoids ρ c m s) :
    Avoids ρ c (Prog.when b m) s := by
  unfold Prog.when
  cases b with
  | true => exact hm rfl
  | false => exact ret ()

theorem each {xs : List β} {f : β → Prog κ σ ε Unit} (hf : ∀ x ∈ xs, ∀ s, Avoids ρ c (f x) s) :
    Avoids ρ c (Prog.each xs f) s := by
  induction xs generalizing s with
  | nil => exact ret ()
  | cons x rest ih =>
    exact bind (hf x List.mem_cons_self s) fun _ _ _ => ih fun y hy => hf y (List.mem_cons_of_mem _ hy)

end Avoids

end Prog

end Calls

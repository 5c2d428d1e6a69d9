import RestoreOperator.Calls.Along
import RestoreOperator.Calls.Keeps

/-!
# `Calls.Loops` — loops that get something done

A loop whose every round gets its item done, and undoes none of the others, gets all of them done.  What
may not be undone is stated along a transition relation that the rounds move by, so it is shown once for a
transition and not once for each pair of rounds.
-/

namespace Calls

open Relation

/-- The caller was told of an error. -/
def Reply.Failed {ε : Type} (r : Reply ε) : Prop := ∃ e, r = .refused e ∨ r = .lost e

namespace Prog

variable {κ σ τ ε α β : Type} {abs : σ → τ} {R : τ → τ → Prop} {ρ : κ → Reply ε} {s : σ}

namespace Along

variable {Q : α → σ → Prop} {E : ε → σ → Prop}

/-- A call that reports no error. -/
theorem call_succeeds {c : κ} {f : σ → σ} {Q : Unit → σ → Prop} (hc : ¬(ρ c).Failed)
    (hR : ReflTransGen R (abs s) (abs (f s))) (hQ : Q () (f s)) :
    Along abs R ρ (Prog.call c f) Q (fun _ _ => False) s :=
  call hR (fun _ => hQ) (fun e he => hc ⟨e, .inl he⟩) fun e he => hc ⟨e, .inr he⟩

/-- A read that reports no error. -/
theorem read_succeeds {c : κ} {g : σ → α} (hc : ¬(ρ c).Failed) (hQ : Q (g s) s) :
    Along abs R ρ (Prog.read c g) Q (fun _ _ => False) s := by
  unfold Along Prog.read
  cases hr : ρ c with
  | ok => exact ⟨.refl, hQ⟩
  | refused e => exact absurd ⟨e, .inl hr⟩ hc
  | lost e => exact absurd ⟨e, .inr hr⟩ hc
  | cut => exact .refl
  | cutAfter => exact .refl

/-- What a program ends with is reached. -/
theorem with_reach {m : Prog κ σ ε α} (h : Along abs R ρ m Q E s) :
    Along abs R ρ m (fun a s' => ReflTransGen R (abs s) (abs s') ∧ Q a s') E s := by
  unfold Along at h ⊢
  cases hr : m ρ s with
  | done a s' =>
    rw [hr] at h
    exact ⟨h.1, h.1, h.2⟩
  | failed e s' =>
    rw [hr] at h
    exact h
  | halted s' =>
    rw [hr] at h
    exact h

theorem of_eq_done {m : Prog κ σ ε α} (h : Along abs R ρ m Q E s) {a : α} {s' : σ}
    (hdone : m ρ s = .done a s') : Q a s' := by
  unfold Along at h
  rw [hdone] at h
  exact h.2

/-- **A loop gets every item done**, if each round does its own and transitions undo none. -/
theorem each_all {xs : List β} {f : β → Prog κ σ ε Unit} {I : σ → Prop} {P : β → σ → Prop}
    (hstable : ∀ x s s', ReflTransGen R (abs s) (abs s') → P x s → P x s')
    (hf : ∀ x ∈ xs, ∀ s, I s → Along abs R ρ (f x) (fun _ s' => I s' ∧ P x s') (fun _ _ => True) s)
    (h : I s) :
    Along abs R ρ (Prog.each xs f) (fun _ s' => I s' ∧ ∀ x ∈ xs, P x s') (fun _ _ => True) s := by
  induction xs generalizing s with
  | nil => exact ret ⟨h, fun _ hx => nomatch hx⟩
  | cons x rest ih =>
    apply bind (hf x List.mem_cons_self s h)
    rintro _ s₁ ⟨hI, hx⟩
    refine (with_reach (ih (fun y hy => hf y (List.mem_cons_of_mem _ hy)) hI)).mono ?_ fun _ _ h => h
    rintro _ s₂ ⟨hreach, hI', hrest⟩
    refine ⟨hI', fun y hy => ?_⟩
    rcases List.mem_cons.mp hy with rfl | hy
    · exact hstable _ s₁ s₂ hreach hx
    · exact hrest y hy

/-- **A loop of tests that all passed** got every item done, if a test that passes does its own. -/
theorem eachAll_all {xs : List β} {f : β → Prog κ σ ε Bool} {I : σ → Prop} {P : β → σ → Prop}
    (hstable : ∀ x s s', ReflTransGen R (abs s) (abs s') → P x s → P x s')
    (hf : ∀ x ∈ xs, ∀ s, I s →
      Along abs R ρ (f x) (fun b s' => I s' ∧ (b = true → P x s')) (fun _ _ => True) s) (h : I s) :
    Along abs R ρ (Prog.eachAll xs f) (fun b s' => I s' ∧ (b = true → ∀ x ∈ xs, P x s'))
      (fun _ _ => True) s := by
  induction xs generalizing s with
  | nil => exact ret ⟨h, fun _ _ hx => nomatch hx⟩
  | cons x rest ih =>
    apply bind (hf x List.mem_cons_self s h)
    rintro b s₁ ⟨hI, hx⟩
    refine bind (with_reach (ih (fun y hy => hf y (List.mem_cons_of_mem _ hy)) hI)) ?_
    rintro b' s₂ ⟨hreach, hI', hrest⟩
    refine ret ⟨hI', fun hboth y hy => ?_⟩
    obtain ⟨rfl, rfl⟩ := Bool.and_eq_true_iff.mp hboth
    rcases List.mem_cons.mp hy with rfl | hy
    · exact hstable _ s₁ s₂ hreach (hx rfl)
    · exact hrest rfl y hy

end Along

theorem bestEffort_state {m : Prog κ σ ε Unit} : (Prog.bestEffort m ρ s).state = (m ρ s).state := by
  unfold Prog.bestEffort
  cases m ρ s <;> rfl

/-- Whether it was attempted or not, a program leaves the same behind. -/
theorem Leads.attempt {I : σ → Prop} {m : Prog κ σ ε α} (hm : ∀ s, I s → I (m ρ s).state) :
    Leads ρ I I I (Prog.attempt m) :=
  Leads.of_state (fun s h => attempt_state (m := m) ▸ hm s h) fun _ h => h

theorem Leads.bestEffort {I Q : σ → Prop} {m : Prog κ σ ε Unit} (hm : ∀ s, I s → Q (m ρ s).state) :
    Leads ρ I Q Q (Prog.bestEffort m) :=
  Leads.of_state (fun s h => bestEffort_state (m := m) ▸ hm s h) fun _ h => h

/-- A program run under a condition, where the state tells whether it holds. -/
theorem Leads.when {I Q J : σ → Prop} {c : Bool} {m : Prog κ σ ε Unit}
    (hm : c = true → Leads ρ I Q J m) (hskip : c = false → ∀ s, I s → Q s) (hJ : ∀ s, Q s → J s) :
    Leads ρ I Q J (Prog.when c m) := by
  unfold Prog.when
  cases c with
  | true => exact hm rfl
  | false => exact Leads.ret (hskip rfl) fun s h => hJ s (hskip rfl s h)

/-- What moves along a relation leads where it ends, and leaves behind what transitions keep. -/
theorem Leads.of_along {I Q J : σ → Prop} {m : Prog κ σ ε α}
    (h : ∀ s, I s → Along abs R ρ m (fun _ => Q) (fun _ _ => True) s)
    (hJ : ∀ s s', I s → ReflTransGen R (abs s) (abs s') → J s') : Leads ρ I Q J m := by
  intro s hI
  exact ⟨fun _ _ hdone => (h s hI).of_eq_done hdone, hJ s _ hI (h s hI).reaches⟩

/-! ## Programs that come to their end -/

/-- **A program that comes to its end** from `I`, and then `Q` holds: it does not fail and is not cut off. -/
def Ends (ρ : κ → Reply ε) (I Q : σ → Prop) (m : Prog κ σ ε α) : Prop :=
  ∀ s, I s → ∃ a s', m ρ s = .done a s' ∧ Q s'

namespace Ends

variable {I Q Q' : σ → Prop}

theorem ret {a : α} : Ends ρ I I (Prog.ret a : Prog κ σ ε α) := fun s h => ⟨a, s, rfl, h⟩

theorem get : Ends ρ I I (Prog.get : Prog κ σ ε σ) := fun s h => ⟨s, s, rfl, h⟩

theorem bind {m : Prog κ σ ε α} {f : α → Prog κ σ ε β} (hm : Ends ρ I Q m)
    (hf : ∀ a, Ends ρ Q Q' (f a)) : Ends ρ I Q' (m >>= f) := by
  intro s h
  obtain ⟨a, s₁, hdone, hQ⟩ := hm s h
  rw [bind_of_done hdone]
  exact hf a s₁ hQ

/-- A program that starts by reading its state knows what it read. -/
theorem get_bind {f : σ → Prog κ σ ε β} (hf : ∀ x, Ends ρ (fun s => I s ∧ s = x) Q (f x)) :
    Ends ρ I Q (Prog.get >>= f) :=
  fun s h => hf s s ⟨h, rfl⟩

theorem weaken {I' : σ → Prop} {m : Prog κ σ ε α} (hm : Ends ρ I Q m) (hI : ∀ s, I' s → I s) :
    Ends ρ I' Q m :=
  fun s h => hm s (hI s h)

theorem when {c : Bool} {m : Prog κ σ ε Unit} (hm : c = true → Ends ρ I Q m)
    (hskip : c = false → ∀ s, I s → Q s) : Ends ρ I Q (Prog.when c m) := by
  unfold Prog.when
  cases c with
  | true => exact hm rfl
  | false => exact fun s h => ⟨(), s, rfl, hskip rfl s h⟩

theorem each {xs : List β} {f : β → Prog κ σ ε Unit} (hf : ∀ x ∈ xs, Ends ρ I I (f x)) :
    Ends ρ I I (Prog.each xs f) := by
  induction xs with
  | nil => exact ret
  | cons x rest ih =>
    exact bind (hf x List.mem_cons_self) fun _ => ih fun y hy => hf y (List.mem_cons_of_mem _ hy)

theorem eachAll {xs : List β} {f : β → Prog κ σ ε Bool} (hf : ∀ x ∈ xs, Ends ρ I I (f x)) :
    Ends ρ I I (Prog.eachAll xs f) := by
  induction xs with
  | nil => exact ret
  | cons x rest ih =>
    refine bind (hf x List.mem_cons_self) fun _ => bind ?_ fun _ => ret
    exact ih fun y hy => hf y (List.mem_cons_of_mem _ hy)

theorem ask {c : κ} {a : α} (hc : (ρ c).isOk = true) : Ends ρ I I (Prog.ask c a : Prog κ σ ε α) :=
  fun s h => ⟨a, s, ask_of_ok hc, h⟩

theorem bestEffort_call {c : κ} {f : σ → σ} (hc : (ρ c).survived = true) (hI : ∀ s, I s → I (f s)) :
    Ends ρ I I (Prog.bestEffort (Prog.call c f)) := by
  intro s h
  unfold Prog.bestEffort Prog.call
  cases hr : ρ c with
  | ok => exact ⟨_, f s, rfl, hI s h⟩
  | refused e => exact ⟨_, s, rfl, h⟩
  | lost e => exact ⟨_, f s, rfl, hI s h⟩
  | cut =>
    rw [hr] at hc
    cases hc
  | cutAfter =>
    rw [hr] at hc
    cases hc

end Ends

end Prog

end Calls

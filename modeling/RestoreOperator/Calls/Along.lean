import RestoreOperator.Calls.Prog

/-!
# `Calls.Along` — programs that move along a transition relation

The states a program passes through are seen through an abstraction `abs : σ → τ`, and a program is
*along* a relation `R` on `τ` when, however its calls end, the state it leaves behind is reached
from the one it started in by steps of `R`.  Since a program may be cut at any call, this says that
every state it can leave behind is a state of the transition system.

  * `Quiet` — the program never changes the abstract state.
  * `Along` — the program moves along `R`, with a postcondition for its value and one for its error.

There is one rule for each way of building a program.
-/

namespace Calls

open Relation

namespace Prog

variable {κ σ τ ε α β : Type} {abs : σ → τ} {R : τ → τ → Prop} {ρ : κ → Reply ε} {s : σ}

/-! ## Programs that change nothing -/

/-- **A program that leaves the abstract state alone**, however its calls end. -/
def Quiet (abs : σ → τ) (m : Prog κ σ ε α) : Prop :=
  ∀ ρ s, abs (m ρ s).state = abs s

namespace Quiet

theorem ret (a : α) : Quiet abs (Prog.ret a : Prog κ σ ε α) := fun _ _ => rfl

theorem fail (e : ε) : Quiet abs (Prog.fail e : Prog κ σ ε α) := fun _ _ => rfl

theorem get : Quiet abs (Prog.get : Prog κ σ ε σ) := fun _ _ => rfl

theorem modify {f : σ → σ} (h : ∀ s, abs (f s) = abs s) :
    Quiet abs (Prog.modify f : Prog κ σ ε Unit) := fun _ s => h s

theorem call {c : κ} {f : σ → σ} (h : ∀ s, abs (f s) = abs s) :
    Quiet abs (Prog.call c f : Prog κ σ ε Unit) := by
  intro ρ s
  unfold Prog.call
  cases ρ c with
  | ok => exact h s
  | refused e => rfl
  | lost e => exact h s
  | cut => rfl
  | cutAfter => exact h s

theorem read (c : κ) (g : σ → α) : Quiet abs (Prog.read c g : Prog κ σ ε α) := by
  intro ρ s
  unfold Prog.read
  cases ρ c <;> rfl

theorem ask (c : κ) (a : α) : Quiet abs (Prog.ask c a : Prog κ σ ε α) := read c _

theorem bind {m : Prog κ σ ε α} {f : α → Prog κ σ ε β} (hm : Quiet abs m)
    (hf : ∀ a, Quiet abs (f a)) : Quiet abs (m >>= f) := by
  intro ρ s
  have hs := hm ρ s
  show abs (Prog.andThen m f ρ s).state = abs s
  unfold Prog.andThen
  cases hr : m ρ s with
  | done a s' =>
    rw [hr] at hs
    exact (hf a ρ s').trans hs
  | failed e s' => rw [hr] at hs; exact hs
  | halted s' => rw [hr] at hs; exact hs

/-- What follows a program and is quiet leaves behind what the program did. -/
theorem state_bind {m : Prog κ σ ε α} {f : α → Prog κ σ ε β} (hf : ∀ a, Quiet abs (f a))
    (ρ : κ → Reply ε) (s : σ) : abs ((m >>= f) ρ s).state = abs (m ρ s).state := by
  show abs (Prog.andThen m f ρ s).state = _
  unfold Prog.andThen
  cases m ρ s with
  | done a s' => exact hf a ρ s'
  | failed e s' => rfl
  | halted s' => rfl

/-- What a call leaves behind, when nothing after it changes anything at all. -/
theorem call_bind_state {c : κ} {g : σ → σ} {f : Unit → Prog κ σ ε β}
    (hf : ∀ a, Quiet (id : σ → σ) (f a)) :
    ((Prog.call c g >>= f) ρ s).state = if (ρ c).tookEffect then g s else s :=
  have hstate : ((Prog.call c g >>= f) ρ s).state = (Prog.call c g ρ s).state := state_bind hf ρ s
  hstate.trans call_state

/-- Either a quiet program hands over to what follows it, in the same abstract state, or it ends
    the whole, in the same abstract state. -/
theorem bind_cases {m : Prog κ σ ε α} (hm : Quiet abs m) (f : α → Prog κ σ ε β) (ρ : κ → Reply ε)
    (s : σ) :
    (∃ a s', abs s' = abs s ∧ (m >>= f) ρ s = f a ρ s') ∨
      (∀ a s', m ρ s ≠ .done a s') ∧ abs ((m >>= f) ρ s).state = abs s := by
  have hs := hm ρ s
  show (∃ a s', abs s' = abs s ∧ Prog.andThen m f ρ s = f a ρ s') ∨
    (∀ a s', m ρ s ≠ .done a s') ∧ abs (Prog.andThen m f ρ s).state = abs s
  unfold Prog.andThen
  cases hr : m ρ s with
  | done a s' =>
    rw [hr] at hs
    exact .inl ⟨a, s', hs, rfl⟩
  | failed e s' =>
    rw [hr] at hs
    exact .inr ⟨by simp, hs⟩
  | halted s' =>
    rw [hr] at hs
    exact .inr ⟨by simp, hs⟩

/-- What a quiet program hands over is in the same abstract state. -/
theorem of_eq_done {m : Prog κ σ ε α} (hm : Quiet abs m) {a : α} {s' : σ} (h : m ρ s = .done a s') :
    abs s' = abs s := by
  have hs := hm ρ s
  rw [h] at hs
  exact hs

theorem attempt {m : Prog κ σ ε α} (hm : Quiet abs m) : Quiet abs (Prog.attempt m) := by
  intro ρ s
  have hs := hm ρ s
  unfold Prog.attempt
  cases hr : m ρ s <;> rw [hr] at hs <;> exact hs

theorem bestEffort {m : Prog κ σ ε Unit} (hm : Quiet abs m) : Quiet abs (Prog.bestEffort m) := by
  intro ρ s
  have hs := hm ρ s
  unfold Prog.bestEffort
  cases hr : m ρ s <;> rw [hr] at hs <;> exact hs

theorem when {c : Bool} {m : Prog κ σ ε Unit} (hm : Quiet abs m) : Quiet abs (Prog.when c m) := by
  unfold Prog.when
  split
  · exact hm
  · exact ret ()

end Quiet

/-! ## Programs that move -/

/-- **A program that moves along `R`** from a state: whatever it leaves behind is reached by steps of
    `R`, its value satisfies `Q` and its error `E`. -/
def Along (abs : σ → τ) (R : τ → τ → Prop) (ρ : κ → Reply ε) (m : Prog κ σ ε α)
    (Q : α → σ → Prop) (E : ε → σ → Prop) (s : σ) : Prop :=
  match m ρ s with
  | .done a s' => ReflTransGen R (abs s) (abs s') ∧ Q a s'
  | .failed e s' => ReflTransGen R (abs s) (abs s') ∧ E e s'
  | .halted s' => ReflTransGen R (abs s) (abs s')

namespace Along

variable {Q Q' : α → σ → Prop} {E E' : ε → σ → Prop}

/-- What a program leaves behind is reached by steps of `R`. -/
theorem reaches {m : Prog κ σ ε α} (h : Along abs R ρ m Q E s) :
    ReflTransGen R (abs s) (abs (m ρ s).state) := by
  unfold Along at h
  cases hr : m ρ s with
  | done a s' => rw [hr] at h; exact h.1
  | failed e s' => rw [hr] at h; exact h.1
  | halted s' => rw [hr] at h; exact h

/-- A program of which only what it leaves behind is known. -/
theorem of_reaches {m : Prog κ σ ε α} (h : ReflTransGen R (abs s) (abs (m ρ s).state)) :
    Along abs R ρ m (fun _ _ => True) (fun _ _ => True) s := by
  unfold Along
  cases hr : m ρ s with
  | done a s' => rw [hr] at h; exact ⟨h, trivial⟩
  | failed e s' => rw [hr] at h; exact ⟨h, trivial⟩
  | halted s' => rw [hr] at h; exact h

/-- Weaken the postconditions. -/
theorem mono {m : Prog κ σ ε α} (h : Along abs R ρ m Q E s) (hQ : ∀ a s', Q a s' → Q' a s')
    (hE : ∀ e s', E e s' → E' e s') : Along abs R ρ m Q' E' s := by
  unfold Along at h ⊢
  cases hr : m ρ s with
  | done a s' => rw [hr] at h; exact ⟨h.1, hQ a s' h.2⟩
  | failed e s' => rw [hr] at h; exact ⟨h.1, hE e s' h.2⟩
  | halted s' => rw [hr] at h; exact h

theorem of_quiet {m : Prog κ σ ε α} (h : Quiet abs m) :
    Along abs R ρ m (fun _ s' => abs s' = abs s) (fun _ s' => abs s' = abs s) s := by
  have hs := h ρ s
  unfold Along
  cases hr : m ρ s with
  | done a s' => rw [hr] at hs; exact ⟨hs ▸ .refl, hs⟩
  | failed e s' => rw [hr] at hs; exact ⟨hs ▸ .refl, hs⟩
  | halted s' =>
    rw [hr] at hs
    show ReflTransGen R (abs s) (abs s')
    rw [show abs s' = abs s from hs]

/-- A program that leaves the abstract state and another view of the state alone. -/
theorem of_quietWith {γ : Type} {view : σ → γ} {m : Prog κ σ ε α}
    (h : Quiet (fun s => (abs s, view s)) m) :
    Along abs R ρ m (fun _ s' => abs s' = abs s ∧ view s' = view s)
      (fun _ s' => abs s' = abs s ∧ view s' = view s) s := by
  have hs := Prod.mk.inj (h ρ s)
  unfold Along
  cases hr : m ρ s with
  | done a s' => rw [hr] at hs; exact ⟨hs.1 ▸ .refl, hs⟩
  | failed e s' => rw [hr] at hs; exact ⟨hs.1 ▸ .refl, hs⟩
  | halted s' =>
    rw [hr] at hs
    show ReflTransGen R (abs s) (abs s')
    rw [show abs s' = abs s from hs.1]

theorem ret {a : α} (h : Q a s) : Along abs R ρ (Prog.ret a) Q E s := ⟨.refl, h⟩

theorem fail {e : ε} (h : E e s) : Along abs R ρ (Prog.fail e) Q E s := ⟨.refl, h⟩

theorem get {Q : σ → σ → Prop} (h : Q s s) : Along abs R ρ Prog.get Q E s := ⟨.refl, h⟩

theorem modify {f : σ → σ} {Q : Unit → σ → Prop} (hR : ReflTransGen R (abs s) (abs (f s)))
    (hQ : Q () (f s)) : Along abs R ρ (Prog.modify f) Q E s := ⟨hR, hQ⟩

/-- A call moves when it takes effect; what is known afterwards may depend on the reply. -/
theorem call_of_effect {c : κ} {f : σ → σ} {Q : Unit → σ → Prop}
    (hR : (ρ c).tookEffect = true → ReflTransGen R (abs s) (abs (f s)))
    (hQ : ρ c = .ok → Q () (f s)) (hrefused : ∀ e, ρ c = .refused e → E e s)
    (hlost : ∀ e, ρ c = .lost e → E e (f s)) : Along abs R ρ (Prog.call c f) Q E s := by
  unfold Along Prog.call
  cases hr : ρ c with
  | ok => exact ⟨hR (by rw [hr]; rfl), hQ hr⟩
  | refused e => exact ⟨.refl, hrefused e hr⟩
  | lost e => exact ⟨hR (by rw [hr]; rfl), hlost e hr⟩
  | cut => exact .refl
  | cutAfter => exact hR (by rw [hr]; rfl)

/-- A call whose move does not depend on the reply. -/
theorem call {c : κ} {f : σ → σ} {Q : Unit → σ → Prop}
    (hR : ReflTransGen R (abs s) (abs (f s)))
    (hQ : ρ c = .ok → Q () (f s)) (hrefused : ∀ e, ρ c = .refused e → E e s)
    (hlost : ∀ e, ρ c = .lost e → E e (f s)) : Along abs R ρ (Prog.call c f) Q E s :=
  call_of_effect (fun _ => hR) hQ hrefused hlost

theorem read {c : κ} {g : σ → α} (hQ : Q (g s) s) (hE : ∀ e, E e s) :
    Along abs R ρ (Prog.read c g) Q E s := by
  unfold Along Prog.read
  cases ρ c with
  | ok => exact ⟨.refl, hQ⟩
  | refused e => exact ⟨.refl, hE e⟩
  | lost e => exact ⟨.refl, hE e⟩
  | cut => exact .refl
  | cutAfter => exact .refl

theorem bind {m : Prog κ σ ε α} {f : α → Prog κ σ ε β} {Q' : β → σ → Prop}
    (hm : Along abs R ρ m Q E s) (hf : ∀ a s', Q a s' → Along abs R ρ (f a) Q' E s') :
    Along abs R ρ (m >>= f) Q' E s := by
  show Along abs R ρ (Prog.andThen m f) Q' E s
  unfold Along Prog.andThen
  unfold Along at hm
  cases hr : m ρ s with
  | done a s' =>
    rw [hr] at hm
    have h := hf a s' hm.2
    unfold Along at h
    simp only
    cases hr' : f a ρ s' with
    | done b s'' => rw [hr'] at h; exact ⟨hm.1.trans h.1, h.2⟩
    | failed e s'' => rw [hr'] at h; exact ⟨hm.1.trans h.1, h.2⟩
    | halted s'' => rw [hr'] at h; exact hm.1.trans h
  | failed e s' => rw [hr] at hm; exact hm
  | halted s' => rw [hr] at hm; exact hm

/-- What comes after a look at the state starts with that state. -/
theorem get_bind {f : σ → Prog κ σ ε β} {Q : β → σ → Prop} (hf : Along abs R ρ (f s) Q E s) :
    Along abs R ρ (Prog.get >>= f) Q E s := by
  refine bind (Q := fun u s' => u = s ∧ s' = s) (get ⟨rfl, rfl⟩) ?_
  rintro u s' ⟨rfl, rfl⟩
  exact hf

/-- What comes after a read starts with what was read. -/
theorem read_bind {c : κ} {g : σ → α} {f : α → Prog κ σ ε β} {Q : β → σ → Prop} (hE : ∀ e, E e s)
    (hf : Along abs R ρ (f (g s)) Q E s) : Along abs R ρ (Prog.read c g >>= f) Q E s := by
  refine bind (Q := fun a s' => a = g s ∧ s' = s) (read ⟨rfl, rfl⟩ hE) ?_
  rintro a s' ⟨rfl, rfl⟩
  exact hf

/-- What comes after a quiet program starts in the same abstract state. -/
theorem quietBind {m : Prog κ σ ε α} {f : α → Prog κ σ ε β} {Q' : β → σ → Prop}
    (hm : Quiet abs m) (hE : ∀ e s', abs s' = abs s → E e s')
    (hf : ∀ a s', abs s' = abs s → Along abs R ρ (f a) Q' E s') :
    Along abs R ρ (m >>= f) Q' E s :=
  bind ((of_quiet hm).mono (fun _ _ h => h) hE) hf

theorem attempt {m : Prog κ σ ε α} {P : Except ε α → σ → Prop} (hm : Along abs R ρ m Q E s)
    (hok : ∀ a s', Q a s' → P (.ok a) s') (herror : ∀ e s', E e s' → P (.error e) s') :
    Along abs R ρ (Prog.attempt m) P E' s := by
  unfold Along Prog.attempt
  unfold Along at hm
  cases hr : m ρ s with
  | done a s' => rw [hr] at hm; exact ⟨hm.1, hok a s' hm.2⟩
  | failed e s' => rw [hr] at hm; exact ⟨hm.1, herror e s' hm.2⟩
  | halted s' => rw [hr] at hm; exact hm

theorem bestEffort {m : Prog κ σ ε Unit} {Q : Unit → σ → Prop} {P : Bool → σ → Prop}
    (hm : Along abs R ρ m Q E s) (hok : ∀ s', Q () s' → P true s')
    (herror : ∀ e s', E e s' → P false s') : Along abs R ρ (Prog.bestEffort m) P E' s := by
  unfold Along Prog.bestEffort
  unfold Along at hm
  cases hr : m ρ s with
  | done a s' => rw [hr] at hm; exact ⟨hm.1, hok s' hm.2⟩
  | failed e s' => rw [hr] at hm; exact ⟨hm.1, herror e s' hm.2⟩
  | halted s' => rw [hr] at hm; exact hm

/-- A best-effort call leaves what it finds, or what it makes of it. -/
theorem bestEffort_call {c : κ} {f : σ → σ} {I : σ → Prop} (hR : ReflTransGen R (abs s) (abs (f s)))
    (hkept : I s) (hmoved : I (f s)) :
    Along abs R ρ (Prog.bestEffort (Prog.call c f)) (fun _ => I) E s :=
  bestEffort (Q := fun _ => I) (E := fun _ => I)
    (call hR (fun _ => hmoved) (fun _ _ => hkept) fun _ _ => hmoved) (fun _ h => h) fun _ _ h => h

theorem when {c : Bool} {m : Prog κ σ ε Unit} {Q : Unit → σ → Prop}
    (hm : c = true → Along abs R ρ m Q E s) (hskip : c = false → Q () s) :
    Along abs R ρ (Prog.when c m) Q E s := by
  unfold Prog.when
  cases c with
  | true => exact hm rfl
  | false => exact ret (hskip rfl)

theorem unlessReturned {m : Prog κ σ ε (Option α)} {rest : Prog κ σ ε α}
    {P : Option α → σ → Prop} (hm : Along abs R ρ m P E s)
    (hreturned : ∀ a s', P (some a) s' → Q a s')
    (hrest : ∀ s', P none s' → Along abs R ρ rest Q E s') :
    Along abs R ρ (Prog.unlessReturned m rest) Q E s := by
  apply bind hm
  intro r s' h
  cases r with
  | some a => exact ret (hreturned a s' h)
  | none => exact hrest s' h

/-- A loop keeps what every round of it keeps. -/
theorem each {xs : List β} {f : β → Prog κ σ ε Unit} {I : σ → Prop}
    (hf : ∀ x ∈ xs, ∀ s, I s → Along abs R ρ (f x) (fun _ => I) (fun _ => I) s) (h : I s) :
    Along abs R ρ (Prog.each xs f) (fun _ => I) (fun _ => I) s := by
  induction xs generalizing s with
  | nil => exact ret h
  | cons x rest ih =>
    apply bind (hf x (List.mem_cons_self ..) s h)
    intro _ s' h'
    exact ih (fun y hy => hf y (List.mem_cons_of_mem _ hy)) h'

theorem eachAll {xs : List β} {f : β → Prog κ σ ε Bool} {I : σ → Prop}
    (hf : ∀ x ∈ xs, ∀ s, I s → Along abs R ρ (f x) (fun _ => I) (fun _ => I) s) (h : I s) :
    Along abs R ρ (Prog.eachAll xs f) (fun _ => I) (fun _ => I) s := by
  induction xs generalizing s with
  | nil => exact ret h
  | cons x rest ih =>
    apply bind (hf x (List.mem_cons_self ..) s h)
    intro _ s' h'
    refine bind (ih (fun y hy => hf y (List.mem_cons_of_mem _ hy)) h') ?_
    intro _ s'' h''
    exact ret h''

end Along

end Prog

end Calls

import RestoreOperator.Calls.Prog

/-!
# `Calls.Keeps` — programs that keep an invariant

A program keeps an invariant when, started where it holds, it leaves it holding, however its calls end.
Where the argument needs no more than that, these rules do without a transition relation; there is one for
each way of building a program.

  * `Keeps` — the program leaves the invariant holding.
  * `Leads` — a triple, for given replies: from `I` the program comes to `Q`, and `J` holds wherever it
    stops.
  * `Yields` — whatever value the program ends with has a property, from any state.
-/

namespace Calls

namespace Prog

variable {κ σ ε α β : Type} {I : σ → Prop}

/-- **A program that keeps an invariant**, however its calls end. -/
def Keeps (I : σ → Prop) (m : Prog κ σ ε α) : Prop :=
  ∀ ρ s, I s → I (m ρ s).state

namespace Keeps

theorem ret (a : α) : Keeps I (Prog.ret a : Prog κ σ ε α) := fun _ _ h => h

theorem fail (e : ε) : Keeps I (Prog.fail e : Prog κ σ ε α) := fun _ _ h => h

theorem get : Keeps I (Prog.get : Prog κ σ ε σ) := fun _ _ h => h

theorem modify {f : σ → σ} (hf : ∀ s, I s → I (f s)) : Keeps I (Prog.modify f : Prog κ σ ε Unit) :=
  fun _ s h => hf s h

theorem call {c : κ} {f : σ → σ} (hf : ∀ s, I s → I (f s)) :
    Keeps I (Prog.call c f : Prog κ σ ε Unit) := by
  intro ρ s h
  rw [call_state]
  split
  · exact hf s h
  · exact h

theorem read (c : κ) (g : σ → α) : Keeps I (Prog.read c g : Prog κ σ ε α) := by
  intro ρ s h
  unfold Prog.read
  cases ρ c <;> exact h

theorem ask (c : κ) (a : α) : Keeps I (Prog.ask c a : Prog κ σ ε α) := read c _

theorem bind {m : Prog κ σ ε α} {f : α → Prog κ σ ε β} (hm : Keeps I m) (hf : ∀ a, Keeps I (f a)) :
    Keeps I (m >>= f) := by
  intro ρ s h
  have hs := hm ρ s h
  rw [bind_eq_andThen]
  unfold andThen
  cases hr : m ρ s with
  | done a s' =>
    rw [hr] at hs
    exact hf a ρ s' hs
  | failed e s' =>
    rw [hr] at hs
    exact hs
  | halted s' =>
    rw [hr] at hs
    exact hs

theorem attempt {m : Prog κ σ ε α} (hm : Keeps I m) : Keeps I (Prog.attempt m) := by
  intro ρ s h
  have hs := hm ρ s h
  unfold Prog.attempt
  cases hr : m ρ s <;> rw [hr] at hs <;> exact hs

theorem bestEffort {m : Prog κ σ ε Unit} (hm : Keeps I m) : Keeps I (Prog.bestEffort m) := by
  intro ρ s h
  have hs := hm ρ s h
  unfold Prog.bestEffort
  cases hr : m ρ s <;> rw [hr] at hs <;> exact hs

theorem when {c : Bool} {m : Prog κ σ ε Unit} (hm : c = true → Keeps I m) :
    Keeps I (Prog.when c m) := by
  unfold Prog.when
  split
  · rename_i hc
    exact hm hc
  · exact ret ()

/-- What follows a program keeps what the program left. -/
theorem state_bind {m : Prog κ σ ε α} {f : α → Prog κ σ ε β} {ρ : κ → Reply ε} {s : σ}
    (hf : ∀ a, Keeps I (f a)) (h : I (m ρ s).state) : I ((m >>= f) ρ s).state := by
  rw [bind_eq_andThen]
  unfold andThen
  cases hr : m ρ s with
  | done a s' =>
    rw [hr] at h
    exact hf a ρ s' h
  | failed e s' =>
    rw [hr] at h
    exact h
  | halted s' =>
    rw [hr] at h
    exact h

/-- A program that reads first goes on from the state it read, or stops there. -/
theorem state_read_bind {c : κ} {g : σ → α} {f : α → Prog κ σ ε β} {ρ : κ → Reply ε} {s : σ}
    (hstop : I s) (h : I (f (g s) ρ s).state) : I ((Prog.read c g >>= f) ρ s).state := by
  rw [bind_eq_andThen]
  unfold andThen Prog.read
  cases ρ c with
  | ok => exact h
  | refused e => exact hstop
  | lost e => exact hstop
  | cut => exact hstop
  | cutAfter => exact hstop

/-- A program that catches the failure of its first read goes on either way. -/
theorem state_attempt_read_bind {c : κ} {g : σ → α} {f : Except ε α → Prog κ σ ε β}
    {ρ : κ → Reply ε} {s : σ} (hstop : I s) (hok : I (f (.ok (g s)) ρ s).state)
    (herror : ∀ e, I (f (.error e) ρ s).state) :
    I ((Prog.attempt (Prog.read c g) >>= f) ρ s).state := by
  rw [bind_eq_andThen]
  unfold andThen Prog.attempt Prog.read
  cases ρ c with
  | ok => exact hok
  | refused e => exact herror e
  | lost e => exact herror e
  | cut => exact hstop
  | cutAfter => exact hstop

theorem unlessReturned {m : Prog κ σ ε (Option α)} {rest : Prog κ σ ε α} (hm : Keeps I m)
    (hrest : Keeps I rest) : Keeps I (Prog.unlessReturned m rest) := by
  apply bind hm
  intro returned
  cases returned with
  | some a => exact ret a
  | none => exact hrest

theorem each {xs : List β} {f : β → Prog κ σ ε Unit} (hf : ∀ x ∈ xs, Keeps I (f x)) :
    Keeps I (Prog.each xs f) := by
  induction xs with
  | nil => exact ret ()
  | cons x rest ih =>
    exact bind (hf x List.mem_cons_self) fun _ => ih fun y hy => hf y (List.mem_cons_of_mem _ hy)

theorem eachAll {xs : List β} {f : β → Prog κ σ ε Bool} (hf : ∀ x ∈ xs, Keeps I (f x)) :
    Keeps I (Prog.eachAll xs f) := by
  induction xs with
  | nil => exact ret true
  | cons x rest ih =>
    refine bind (hf x List.mem_cons_self) fun _ => bind ?_ fun _ => ret _
    exact ih fun y hy => hf y (List.mem_cons_of_mem _ hy)

end Keeps

/-- **A program that leads from `I` to `Q`** under some replies: where it ends with a value `Q` holds,
    and `J` holds of whatever it leaves behind. -/
def Leads (ρ : κ → Reply ε) (I Q J : σ → Prop) (m : Prog κ σ ε α) : Prop :=
  ∀ s, I s → (∀ a s', m ρ s = .done a s' → Q s') ∧ J (m ρ s).state

namespace Leads

variable {ρ : κ → Reply ε} {Q Q' J : σ → Prop}

theorem ret {a : α} (hQ : ∀ s, I s → Q s) (hJ : ∀ s, I s → J s) :
    Leads ρ I Q J (Prog.ret a : Prog κ σ ε α) := by
  intro s h
  refine ⟨?_, hJ s h⟩
  intro _ s' hdone
  cases hdone
  exact hQ s h

theorem of_keeps {m : Prog κ σ ε α} (hm : Keeps I m) (hJ : ∀ s, I s → J s) : Leads ρ I I J m := by
  intro s h
  have hs := hm ρ s h
  refine ⟨?_, hJ _ hs⟩
  intro a s' hdone
  rw [hdone] at hs
  exact hs

/-- Where the value does not matter, what the program leaves behind does. -/
theorem of_state {m : Prog κ σ ε α} (h : ∀ s, I s → Q (m ρ s).state) (hQ : ∀ s, Q s → J s) :
    Leads ρ I Q J m := by
  intro s hs
  have hstate := h s hs
  refine ⟨?_, hQ _ hstate⟩
  intro a s' hdone
  rw [hdone] at hstate
  exact hstate

theorem mono {m : Prog κ σ ε α} (hm : Leads ρ I Q J m) (hQ : ∀ s, Q s → Q' s) : Leads ρ I Q' J m :=
  fun s h => ⟨fun a s' hdone => hQ s' ((hm s h).1 a s' hdone), (hm s h).2⟩

theorem weaken {I' : σ → Prop} {m : Prog κ σ ε α} (hm : Leads ρ I Q J m) (hI : ∀ s, I' s → I s) :
    Leads ρ I' Q J m :=
  fun s h => hm s (hI s h)

theorem modify {f : σ → σ} (hf : ∀ s, I s → Q (f s)) :
    Leads ρ I Q Q (Prog.modify f : Prog κ σ ε Unit) := by
  intro s h
  refine ⟨?_, hf s h⟩
  intro _ s' hdone
  cases hdone
  exact hf s h

theorem call {c : κ} {f : σ → σ} (hf : ∀ s, I s → Q (f s)) (hI : ∀ s, I s → J s)
    (hQ : ∀ s, Q s → J s) : Leads ρ I Q J (Prog.call c f : Prog κ σ ε Unit) := by
  intro s h
  constructor
  · intro _ s' hdone
    rw [call_eq_done hdone]
    exact hf s h
  · rw [call_state]
    split
    · exact hQ _ (hf s h)
    · exact hI s h

/-- A call that is known to take effect. -/
theorem call_tookEffect {c : κ} {f : σ → σ} (hc : (ρ c).tookEffect = true) (hf : ∀ s, I s → Q (f s))
    (hQ : ∀ s, Q s → J s) : Leads ρ I Q J (Prog.call c f : Prog κ σ ε Unit) := by
  intro s h
  constructor
  · intro _ s' hdone
    rw [call_eq_done hdone]
    exact hf s h
  · rw [call_state, if_pos hc]
    exact hQ _ (hf s h)

/-- A call that is known to take no effect. -/
theorem call_refused {c : κ} {f : σ → σ} (hc : (ρ c).tookEffect = false) (hI : ∀ s, I s → J s) :
    Leads ρ I Q J (Prog.call c f : Prog κ σ ε Unit) := by
  intro s h
  constructor
  · intro _ s' hdone
    unfold Prog.call at hdone
    cases hr : ρ c <;> rw [hr] at hc hdone <;> cases hc <;> cases hdone
  · rw [call_state, hc]
    exact hI s h

/-- What follows a change of the state starts from it. -/
theorem modify_bind {f : σ → σ} {g : Unit → Prog κ σ ε β} (hf : ∀ s, I s → Q (f s))
    (hg : Leads ρ Q Q' J (g ())) : Leads ρ I Q' J (Prog.modify f >>= g) :=
  fun s h => hg (f s) (hf s h)

/-- A program whose value tells something about the state it ended in. -/
theorem bind_value {Q : α → σ → Prop} {m : Prog κ σ ε α} {f : α → Prog κ σ ε β}
    (hm : ∀ s, I s → (∀ a s', m ρ s = .done a s' → Q a s') ∧ J (m ρ s).state)
    (hf : ∀ a, Leads ρ (Q a) Q' J (f a)) : Leads ρ I Q' J (m >>= f) := by
  intro s h
  obtain ⟨hdone, hstop⟩ := hm s h
  rw [bind_eq_andThen]
  unfold andThen
  cases hr : m ρ s with
  | done a s' => exact hf a s' (hdone a s' hr)
  | failed e s' =>
    rw [hr] at hstop
    exact ⟨(fun _ _ h => nomatch h), hstop⟩
  | halted s' =>
    rw [hr] at hstop
    exact ⟨(fun _ _ h => nomatch h), hstop⟩

theorem bind {m : Prog κ σ ε α} {f : α → Prog κ σ ε β} (hm : Leads ρ I Q J m)
    (hf : ∀ a, Leads ρ Q Q' J (f a)) : Leads ρ I Q' J (m >>= f) :=
  bind_value (Q := fun _ => Q) hm hf

/-- A piece that keeps what the program starts with. -/
theorem keeps_bind {m : Prog κ σ ε α} {f : α → Prog κ σ ε β} (hm : Keeps I m) (hJ : ∀ s, I s → J s)
    (hf : ∀ a, Leads ρ I Q J (f a)) : Leads ρ I Q J (m >>= f) :=
  bind (of_keeps hm hJ) hf

/-- A piece that keeps what it starts with, and ends the program. -/
theorem ends {m : Prog κ σ ε α} (hm : Keeps I m) (hQ : ∀ s, I s → Q s) (hJ : ∀ s, I s → J s) :
    Leads ρ I Q J m :=
  (of_keeps hm hJ).mono hQ

/-- A program that starts by reading its state, or a part of it, knows what it read. -/
theorem get_bind {f : σ → Prog κ σ ε β} (hf : ∀ x, Leads ρ (fun s => I s ∧ s = x) Q J (f x)) :
    Leads ρ I Q J (Prog.get >>= f) :=
  fun s h => hf s s ⟨h, rfl⟩

theorem read_bind {c : κ} {g : σ → α} {f : α → Prog κ σ ε β}
    (hf : ∀ x, Leads ρ (fun s => I s ∧ g s = x) Q J (f x)) (hJ : ∀ s, I s → J s) :
    Leads ρ I Q J (Prog.read c g >>= f) := by
  intro s h
  rw [bind_eq_andThen]
  unfold andThen Prog.read
  cases ρ c with
  | ok => exact hf (g s) s ⟨h, rfl⟩
  | refused e => exact ⟨(fun _ _ h => nomatch h), hJ s h⟩
  | lost e => exact ⟨(fun _ _ h => nomatch h), hJ s h⟩
  | cut => exact ⟨(fun _ _ h => nomatch h), hJ s h⟩
  | cutAfter => exact ⟨(fun _ _ h => nomatch h), hJ s h⟩

/-- A loop whose rounds all keep what it starts with. -/
theorem each {xs : List β} {f : β → Prog κ σ ε Unit} (hf : ∀ x ∈ xs, Leads ρ I I J (f x))
    (hJ : ∀ s, I s → J s) : Leads ρ I I J (Prog.each xs f) := by
  induction xs with
  | nil => exact ret (fun _ h => h) hJ
  | cons x rest ih =>
    exact bind (hf x List.mem_cons_self) fun _ => ih fun y hy => hf y (List.mem_cons_of_mem _ hy)

/-- What leads anywhere from an invariant and never breaks it keeps it. -/
theorem keeps {m : Prog κ σ ε α} (hm : ∀ ρ, Leads ρ I Q I m) : Keeps I m :=
  fun ρ s h => (hm ρ s h).2

end Leads

/-- **A program whose values have a property**, however its calls end. -/
def Yields (P : α → Prop) (m : Prog κ σ ε α) : Prop :=
  ∀ ρ s a s', m ρ s = .done a s' → P a

namespace Yields

variable {P : α → Prop} {P' : β → Prop}

theorem ret {a : α} (h : P a) : Yields P (Prog.ret a : Prog κ σ ε α) := by
  intro ρ s a' s' hrun
  cases hrun
  exact h

theorem fail (e : ε) : Yields P (Prog.fail e : Prog κ σ ε α) := fun _ _ _ _ hrun => nomatch hrun

/-- Only what comes last matters. -/
theorem bind {m : Prog κ σ ε α} {f : α → Prog κ σ ε β} (hf : ∀ a, Yields P' (f a)) :
    Yields P' (m >>= f) := by
  intro ρ s b s' hrun
  obtain ⟨a, s₁, _, hrest⟩ := bind_eq_done hrun
  exact hf a ρ s₁ b s' hrest

end Yields

/-- A program that always returns leaves no rest to be run. -/
theorem Leads.returned {ρ : κ → Reply ε} {Q J : σ → Prop} {m : Prog κ σ ε (Option α)}
    {rest : Prog κ σ ε α} (hm : Leads ρ I Q J m) (hQ : ∀ s, Q s → J s) (hsome : Yields (fun a => a.isSome = true) m) :
    Leads ρ I Q J (Prog.unlessReturned m rest) := by
  refine Leads.bind_value (Q := fun returned s => Q s ∧ returned.isSome = true) ?_ fun returned => ?_
  · intro s h
    exact ⟨fun a s' hdone => ⟨(hm s h).1 a s' hdone, hsome ρ s a s' hdone⟩, (hm s h).2⟩
  · cases returned with
    | some a => exact Leads.ret (fun _ h => h.1) fun _ h => hQ _ h.1
    | none => exact fun _ h => nomatch h.2

end Prog

end Calls

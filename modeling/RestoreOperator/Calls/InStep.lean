import RestoreOperator.Calls.Keeps

/-!
# `Calls.InStep` — two programs that go together

One piece of code may have two models, over states of their own and with calls of their own, and where the
one makes several calls the other may make a single one.  The two are run side by side, each with its own
replies, and a relation between their states is carried along.

  * `Reply.told`, `Outcome.told` — how a call ended, and how a whole program did, as the reply to a call of
    the other program.
  * `InStep` — both programs end with a value, in related states, or both stop, in related states.
  * `Tracks` — however the two end, the states they leave behind are related.
-/

namespace Calls

section Told

variable {ε ε' : Type}

/-- How a call ended, told of another: where it ended with an error, with one of the other's. -/
def Reply.told (e : ε') : Reply ε → Reply ε'
  | .ok => .ok
  | .refused _ => .refused e
  | .lost _ => .lost e
  | .cut => .cut
  | .cutAfter => .cutAfter

/-- How a program ended, told of a single call. -/
def Outcome.told {σ α : Type} (e : ε') : Outcome σ ε α → Reply ε'
  | .done _ _ => .ok
  | .failed _ _ => .refused e
  | .halted _ => .cut

@[simp] theorem Reply.isOk_told (e : ε') (r : Reply ε) : (r.told e).isOk = r.isOk := by
  cases r <;> rfl

@[simp] theorem Reply.tookEffect_told (e : ε') (r : Reply ε) : (r.told e).tookEffect = r.tookEffect := by
  cases r <;> rfl

end Told

namespace Prog

variable {κ κ' σ τ ε ε' α α' β β' : Type}

/-- A program ends with a value or stops. -/
theorem done_or_stops (m : Prog κ σ ε α) (ρ : κ → Reply ε) (s : σ) :
    (∃ a s', m ρ s = .done a s') ∨ Stops m ρ s (m ρ s).state := by
  unfold Stops
  cases m ρ s with
  | done a s' => exact .inl ⟨a, s', rfl⟩
  | failed e s' => exact .inr (.inl ⟨e, rfl⟩)
  | halted s' => exact .inr (.inr rfl)

/-- **Two programs in step**, under given replies: from states related by `I`, both end with values, related
    together with the states by `Q`, or both stop, in states related by `J`. -/
def InStep (ρ : κ → Reply ε) (ρ' : κ' → Reply ε') (I : σ → τ → Prop) (Q : α → α' → σ → τ → Prop)
    (J : σ → τ → Prop) (m : Prog κ σ ε α) (n : Prog κ' τ ε' α') : Prop :=
  ∀ s t, I s t →
    (∃ a s' b t', m ρ s = .done a s' ∧ n ρ' t = .done b t' ∧ Q a b s' t') ∨
      ∃ s' t', Stops m ρ s s' ∧ Stops n ρ' t t' ∧ J s' t'

/-- **A program tracks another**: wherever the two end or stop, the states they leave are related. -/
def Tracks (ρ : κ → Reply ε) (ρ' : κ' → Reply ε') (I J : σ → τ → Prop) (m : Prog κ σ ε α)
    (n : Prog κ' τ ε' α') : Prop :=
  ∀ s t, I s t → J (m ρ s).state (n ρ' t).state

variable {ρ : κ → Reply ε} {ρ' : κ' → Reply ε'} {I J : σ → τ → Prop} {m : Prog κ σ ε α}
  {n : Prog κ' τ ε' α'}

namespace InStep

variable {Q : α → α' → σ → τ → Prop}

/-- The second program may be told in other words, where the states are related. -/
theorem congr {n' : Prog κ' τ ε' α'} (h : InStep ρ ρ' I Q J m n')
    (heq : ∀ s t, I s t → n ρ' t = n' ρ' t) : InStep ρ ρ' I Q J m n := by
  intro s t hI
  have hstep := h s t hI
  unfold Stops at hstep ⊢
  rw [heq s t hI]
  exact hstep

/-- Two calls that end alike. -/
theorem call {Q : Unit → Unit → σ → τ → Prop} {c : κ} {c' : κ'} {f : σ → σ} {f' : τ → τ}
    (hok : (ρ' c').isOk = (ρ c).isOk) (htook : (ρ' c').tookEffect = (ρ c).tookEffect)
    (hQ : ∀ s t, I s t → Q () () (f s) (f' t)) (hI : ∀ s t, I s t → J s t)
    (hJ : ∀ s t, Q () () s t → J s t) : InStep ρ ρ' I Q J (Prog.call c f) (Prog.call c' f') := by
  intro s t h
  cases hc : (ρ c).isOk with
  | true => exact .inl ⟨(), f s, (), f' t, call_of_ok hc, call_of_ok (hok.trans hc), hQ s t h⟩
  | false =>
    refine .inr ⟨_, _, Stops.call hc, Stops.call (hok.trans hc), ?_⟩
    rw [htook]
    split
    · exact hJ _ _ (hQ s t h)
    · exact hI s t h

/-- Two reads that end alike. -/
theorem read {c : κ} {c' : κ'} {g : σ → α} {g' : τ → α'} (hok : (ρ' c').isOk = (ρ c).isOk)
    (hQ : ∀ s t, I s t → Q (g s) (g' t) s t) (hI : ∀ s t, I s t → J s t) :
    InStep ρ ρ' I Q J (Prog.read c g) (Prog.read c' g') := by
  intro s t h
  cases hc : (ρ c).isOk with
  | true => exact .inl ⟨g s, s, g' t, t, read_of_ok hc, read_of_ok (hok.trans hc), hQ s t h⟩
  | false => exact .inr ⟨s, t, Stops.read hc, Stops.read (hok.trans hc), hI s t h⟩

/-- **A whole program and a single call**, which only asks and ends as the program does. -/
theorem asked {c' : κ'} {b : α'} {e : ε'} (hreply : ∀ s t, I s t → ρ' c' = (m ρ s).told e)
    (hQ : ∀ s t, I s t → ∀ a s', m ρ s = .done a s' → Q a b s' t)
    (hJ : ∀ s t, I s t → J (m ρ s).state t) : InStep ρ ρ' I Q J m (Prog.ask c' b) := by
  intro s t h
  have hr := hreply s t h
  rcases done_or_stops m ρ s with ⟨a, s', hdone⟩ | hstops
  · have hok : (ρ' c').isOk = true := by rw [hr, hdone]; rfl
    exact .inl ⟨a, s', b, t, hdone, ask_of_ok hok, hQ s t h a s' hdone⟩
  · have hnot : (ρ' c').isOk = false := by
      rw [hr]
      rcases hstops with ⟨e', hfailed⟩ | hhalted
      · rw [hfailed]; rfl
      · rw [hhalted]; rfl
    exact .inr ⟨_, t, hstops, Stops.read hnot, hJ s t h⟩

/-- A program that keeps what relates the states, and a call that only asks. -/
theorem silent {K : σ → τ → Prop} {c' : κ'} {b : α'} {e : ε'} (hkeeps : ∀ t, Keeps (K · t) m)
    (hreply : ∀ s t, I s t → ρ' c' = (m ρ s).told e) (hI : ∀ s t, I s t → K s t)
    (hJ : ∀ s t, K s t → J s t) : InStep ρ ρ' I (fun _ _ => K) J m (Prog.ask c' b) := by
  refine asked hreply (fun s t h a s' hdone => ?_) fun s t h => hJ _ _ (hkeeps t ρ s (hI s t h))
  have hkept := hkeeps t ρ s (hI s t h)
  rw [hdone] at hkept
  exact hkept

/-- Two programs that run only under a condition, which is the same. -/
theorem when {Q : Unit → Unit → σ → τ → Prop} {c c' : Bool} {m : Prog κ σ ε Unit} {n : Prog κ' τ ε' Unit}
    (hc : c' = c) (hm : c = true → InStep ρ ρ' I Q J m n) (hnot : c = false → ∀ s t, I s t → Q () () s t) :
    InStep ρ ρ' I Q J (Prog.when c m) (Prog.when c' n) := by
  subst hc
  cases c' with
  | true => exact hm rfl
  | false => exact fun s t h => .inl ⟨(), s, (), t, rfl, rfl, hnot rfl s t h⟩

theorem tracks (h : InStep ρ ρ' I Q J m n) (hQ : ∀ a b s t, Q a b s t → J s t) : Tracks ρ ρ' I J m n := by
  intro s t hI
  rcases h s t hI with ⟨a, s', b, t', hdone, hdone', hrel⟩ | ⟨s', t', hstops, hstops', hJ⟩
  · rw [hdone, hdone']
    exact hQ a b s' t' hrel
  · rw [hstops.state, hstops'.state]
    exact hJ

end InStep

namespace Tracks

theorem bind {Q : α → α' → σ → τ → Prop} {f : α → Prog κ σ ε β} {g : α' → Prog κ' τ ε' β'}
    (hm : InStep ρ ρ' I Q J m n) (hf : ∀ a b, Tracks ρ ρ' (Q a b) J (f a) (g b)) :
    Tracks ρ ρ' I J (m >>= f) (n >>= g) := by
  intro s t h
  rcases hm s t h with ⟨a, s', b, t', hdone, hdone', hQ⟩ | ⟨s', t', hstops, hstops', hJ⟩
  · rw [bind_of_done hdone, bind_of_done hdone']
    exact hf a b s' t' hQ
  · rw [hstops.bind.state, hstops'.bind.state]
    exact hJ

/-- What the two values tell, the rest of the programs may go by. -/
theorem bind_told {K : σ → τ → Prop} {F : α → α' → Prop} {f : α → Prog κ σ ε β} {g : α' → Prog κ' τ ε' β'}
    (hm : InStep ρ ρ' I (fun a b s t => K s t ∧ F a b) J m n)
    (hf : ∀ a b, F a b → Tracks ρ ρ' K J (f a) (g b)) : Tracks ρ ρ' I J (m >>= f) (n >>= g) :=
  bind hm fun a b s t h => hf a b h.2 s t h.1

/-- What the second program does besides matters no more. -/
theorem then_keeps {g : α' → Prog κ' τ ε' β'} (hm : Tracks ρ ρ' I J m n)
    (hg : ∀ s b, Keeps (J s) (g b)) : Tracks ρ ρ' I J m (n >>= g) :=
  fun s t h => Keeps.state_bind (hg _) (hm s t h)

end Tracks

end Prog

end Calls

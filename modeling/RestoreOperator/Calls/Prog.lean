import Mathlib.Logic.Relation

/-!
# `Calls.Prog` — programs over calls that may be refused, lost or cut short

A controller is a sequence of calls to other parties (an API server, a database, a queue), and what
it leaves behind depends on how each call ends.  A program here is run against an *oracle* that
answers every call site, so one program has one outcome for each way its calls can end.

  * `Reply` — how one call ends, seen from both sides: did it take effect, and what does the caller
    learn.  Two of the replies are the caller's own death, before or after the effect.
  * `Outcome` — how a program ends: with a value, with an error, or cut short.
  * `Prog` — programs, with the monad structure, the primitive calls (`call`, `read`, `ask`) and
    `attempt`, which turns an error into a value (but never revives a program that was cut).
-/

namespace Calls

/-- **How one call ends.**  `ok` and `lost` take effect; `refused` and `lost` report an error to the
    caller; `cut` and `cutAfter` end the caller itself, before and after the effect. -/
inductive Reply (ε : Type) where
  | ok
  | refused (e : ε)
  | lost (e : ε)
  | cut
  | cutAfter
  deriving Repr, DecidableEq

/-- The call took effect. -/
def Reply.tookEffect {ε : Type} : Reply ε → Bool
  | .ok => true
  | .refused _ => false
  | .lost _ => true
  | .cut => false
  | .cutAfter => true

/-- The caller lived on. -/
def Reply.survived {ε : Type} : Reply ε → Bool
  | .ok => true
  | .refused _ => true
  | .lost _ => true
  | .cut => false
  | .cutAfter => false

/-- The caller was told that the call succeeded. -/
def Reply.isOk {ε : Type} : Reply ε → Bool
  | .ok => true
  | _ => false

@[simp] theorem Reply.tookEffect_ok {ε : Type} : (Reply.ok : Reply ε).tookEffect = true := rfl

@[simp] theorem Reply.isOk_ok {ε : Type} : (Reply.ok : Reply ε).isOk = true := rfl

theorem Reply.tookEffect_of_isOk {ε : Type} {r : Reply ε} (h : r.isOk = true) :
    r.tookEffect = true := by
  cases r with
  | ok => rfl
  | _ => cases h

/-- **How a program ends**, with the state it leaves behind. -/
inductive Outcome (σ ε α : Type) where
  | done (a : α) (s : σ)
  | failed (e : ε) (s : σ)
  | halted (s : σ)
  deriving Repr

/-- The state an outcome leaves behind. -/
def Outcome.state {σ ε α : Type} : Outcome σ ε α → σ
  | .done _ s => s
  | .failed _ s => s
  | .halted s => s

/-- Whether the program was cut short. -/
def Outcome.isHalted {σ ε α : Type} : Outcome σ ε α → Bool
  | .halted _ => true
  | _ => false

/-- **Programs**: functions of the replies to their call sites `κ` and of the state `σ`. -/
def Prog (κ σ ε α : Type) : Type :=
  (κ → Reply ε) → σ → Outcome σ ε α

namespace Prog

variable {κ σ ε α β : Type}

/-- End with a value. -/
def ret (a : α) : Prog κ σ ε α := fun _ s => .done a s

/-- Sequencing: the second program runs only if the first ended with a value. -/
def andThen (m : Prog κ σ ε α) (f : α → Prog κ σ ε β) : Prog κ σ ε β := fun ρ s =>
  match m ρ s with
  | .done a s' => f a ρ s'
  | .failed e s' => .failed e s'
  | .halted s' => .halted s'

instance : Monad (Prog κ σ ε) where
  pure := ret
  bind := andThen

/-- End with an error. -/
def fail (e : ε) : Prog κ σ ε α := fun _ s => .failed e s

/-- Read the program's own state, without a call. -/
def get : Prog κ σ ε σ := fun _ s => .done s s

/-- Change the program's own state, without a call. -/
def modify (f : σ → σ) : Prog κ σ ε Unit := fun _ s => .done () (f s)

/-- A call that changes the state when it takes effect. -/
def call (c : κ) (f : σ → σ) : Prog κ σ ε Unit := fun ρ s =>
  match ρ c with
  | .ok => .done () (f s)
  | .refused e => .failed e s
  | .lost e => .failed e (f s)
  | .cut => .halted s
  | .cutAfter => .halted (f s)

/-- A call that only reads the state. -/
def read (c : κ) (g : σ → α) : Prog κ σ ε α := fun ρ s =>
  match ρ c with
  | .ok => .done (g s) s
  | .refused e => .failed e s
  | .lost e => .failed e s
  | .cut => .halted s
  | .cutAfter => .halted s

/-- A call to a party outside the state, which answers `a`. -/
def ask (c : κ) (a : α) : Prog κ σ ε α := read c fun _ => a

/-- Turn an error into a value.  A program that was cut stays cut. -/
def attempt (m : Prog κ σ ε α) : Prog κ σ ε (Except ε α) := fun ρ s =>
  match m ρ s with
  | .done a s' => .done (.ok a) s'
  | .failed e s' => .done (.error e) s'
  | .halted s' => .halted s'

/-- A call whose error is swallowed: it tells whether the call succeeded. -/
def bestEffort (m : Prog κ σ ε Unit) : Prog κ σ ε Bool := fun ρ s =>
  match m ρ s with
  | .done _ s' => .done true s'
  | .failed _ s' => .done false s'
  | .halted s' => .halted s'

/-- Run a program only under a condition. -/
def when (c : Bool) (m : Prog κ σ ε Unit) : Prog κ σ ε Unit :=
  if c then m else ret ()

/-- An early return: the rest runs only if the block did not return. -/
def unlessReturned (m : Prog κ σ ε (Option α)) (rest : Prog κ σ ε α) : Prog κ σ ε α :=
  m.andThen fun r =>
    match r with
    | some a => ret a
    | none => rest

/-- Run a program for each item of a list, in order. -/
def each (xs : List β) (f : β → Prog κ σ ε Unit) : Prog κ σ ε Unit :=
  match xs with
  | [] => ret ()
  | x :: rest => (f x).andThen fun _ => each rest f

/-- Run a test for each item of a list, in order, and tell whether all of them passed. -/
def eachAll (xs : List β) (f : β → Prog κ σ ε Bool) : Prog κ σ ε Bool :=
  match xs with
  | [] => ret true
  | x :: rest => (f x).andThen fun b => (eachAll rest f).andThen fun b' => ret (b && b')

@[simp] theorem pure_eq_ret (a : α) : (pure a : Prog κ σ ε α) = ret a := rfl

@[simp] theorem bind_eq_andThen (m : Prog κ σ ε α) (f : α → Prog κ σ ε β) :
    m >>= f = m.andThen f := rfl

/-- A sequence ends with a value if both its parts do. -/
theorem bind_eq_done {m : Prog κ σ ε α} {f : α → Prog κ σ ε β} {ρ : κ → Reply ε} {s s' : σ} {b : β}
    (h : (m >>= f) ρ s = .done b s') : ∃ a s₁, m ρ s = .done a s₁ ∧ f a ρ s₁ = .done b s' := by
  rw [bind_eq_andThen] at h
  unfold andThen at h
  cases hm : m ρ s with
  | done a s₁ =>
    rw [hm] at h
    exact ⟨a, s₁, rfl, h⟩
  | failed e s₁ =>
    rw [hm] at h
    cases h
  | halted s₁ =>
    rw [hm] at h
    cases h

/-- A call that succeeded took effect. -/
theorem call_eq_done {c : κ} {f : σ → σ} {ρ : κ → Reply ε} {s s' : σ} {a : Unit}
    (h : Prog.call c f ρ s = .done a s') : s' = f s := by
  unfold call at h
  cases hr : ρ c <;> rw [hr] at h <;> cases h
  rfl

/-- A read that succeeded tells the state, and leaves it. -/
theorem read_eq_done {c : κ} {g : σ → α} {ρ : κ → Reply ε} {s s' : σ} {a : α}
    (h : Prog.read c g ρ s = .done a s') : a = g s ∧ s' = s := by
  unfold read at h
  cases hr : ρ c <;> rw [hr] at h <;> cases h
  exact ⟨rfl, rfl⟩

/-- What was attempted and worked is what was done. -/
theorem attempt_eq_ok {m : Prog κ σ ε α} {ρ : κ → Reply ε} {s s' : σ} {a : α}
    (h : Prog.attempt m ρ s = .done (.ok a) s') : m ρ s = .done a s' := by
  unfold Prog.attempt at h
  cases hm : m ρ s with
  | done b s₁ =>
    rw [hm] at h
    cases h
    rfl
  | failed e s₁ =>
    rw [hm] at h
    cases h
  | halted s₁ =>
    rw [hm] at h
    cases h

/-- A best-effort call that came back took effect or did not. -/
theorem bestEffort_call_eq_done {c : κ} {f : σ → σ} {ρ : κ → Reply ε} {s s' : σ} {b : Bool}
    (h : Prog.bestEffort (Prog.call c f) ρ s = .done b s') :
    s' = if (ρ c).tookEffect then f s else s := by
  unfold bestEffort call at h
  cases hr : ρ c <;> rw [hr] at h <;> cases h <;> rfl

/-! ## Programs that stop short -/

variable {ρ : κ → Reply ε} {s s' : σ}

/-- What follows a program that ended with a value. -/
theorem bind_of_done {m : Prog κ σ ε α} {f : α → Prog κ σ ε β} {a : α} (h : m ρ s = .done a s') :
    (m >>= f) ρ s = f a ρ s' := by
  rw [bind_eq_andThen, andThen, h]

theorem call_of_ok {c : κ} {f : σ → σ} (h : (ρ c).isOk = true) : call c f ρ s = .done () (f s) := by
  unfold call
  cases hr : ρ c <;> rw [hr] at h <;> first | rfl | cases h

/-- What a call leaves behind. -/
theorem call_state {c : κ} {f : σ → σ} :
    ((call c f : Prog κ σ ε Unit) ρ s).state = if (ρ c).tookEffect then f s else s := by
  unfold call
  cases ρ c <;> rfl

theorem attempt_state {m : Prog κ σ ε α} : (Prog.attempt m ρ s).state = (m ρ s).state := by
  unfold Prog.attempt
  cases m ρ s <;> rfl

theorem read_of_ok {c : κ} {g : σ → α} (h : (ρ c).isOk = true) : read c g ρ s = .done (g s) s := by
  unfold read
  cases hr : ρ c <;> rw [hr] at h <;> first | rfl | cases h

theorem ask_of_ok {c : κ} {a : α} (h : (ρ c).isOk = true) : ask c a ρ s = .done a s :=
  read_of_ok h

/-- **A program that stops short**: it ends with an error or is cut, and leaves `s'` behind. -/
def Stops (m : Prog κ σ ε α) (ρ : κ → Reply ε) (s s' : σ) : Prop :=
  (∃ e, m ρ s = .failed e s') ∨ m ρ s = .halted s'

namespace Stops

theorem fail (e : ε) : Stops (Prog.fail e : Prog κ σ ε α) ρ s s := .inl ⟨e, rfl⟩

theorem call {c : κ} {f : σ → σ} (h : (ρ c).isOk = false) :
    Stops (Prog.call c f) ρ s (if (ρ c).tookEffect then f s else s) := by
  unfold Stops Prog.call
  cases hr : ρ c with
  | ok =>
    rw [hr] at h
    cases h
  | refused e => exact .inl ⟨e, rfl⟩
  | lost e => exact .inl ⟨e, rfl⟩
  | cut => exact .inr rfl
  | cutAfter => exact .inr rfl

theorem read {c : κ} {g : σ → α} (h : (ρ c).isOk = false) : Stops (Prog.read c g) ρ s s := by
  unfold Stops Prog.read
  cases hr : ρ c with
  | ok =>
    rw [hr] at h
    cases h
  | refused e => exact .inl ⟨e, rfl⟩
  | lost e => exact .inl ⟨e, rfl⟩
  | cut => exact .inr rfl
  | cutAfter => exact .inr rfl

/-- A sequence stops where its first part does. -/
theorem bind {m : Prog κ σ ε α} {f : α → Prog κ σ ε β} (h : Stops m ρ s s') :
    Stops (m >>= f) ρ s s' := by
  rw [bind_eq_andThen]
  unfold Stops andThen
  rcases h with ⟨e, h⟩ | h
  · rw [h]
    exact .inl ⟨e, rfl⟩
  · rw [h]
    exact .inr rfl

/-- A sequence stops where its second part does, if the first ended with a value. -/
theorem after {m : Prog κ σ ε α} {f : α → Prog κ σ ε β} {a : α} {s₁ : σ} (hm : m ρ s = .done a s₁)
    (h : Stops (f a) ρ s₁ s') : Stops (m >>= f) ρ s s' := by
  unfold Stops
  rw [bind_of_done hm]
  exact h

theorem state {m : Prog κ σ ε α} (h : Stops m ρ s s') : (m ρ s).state = s' := by
  rcases h with ⟨e, h⟩ | h <;> rw [h] <;> rfl

/-- Caught, a program that stops hands its error on, unless it was cut. -/
theorem attempt {m : Prog κ σ ε α} (h : Stops m ρ s s') :
    (∃ e, Prog.attempt m ρ s = .done (.error e) s') ∨ Prog.attempt m ρ s = .halted s' := by
  unfold Prog.attempt
  rcases h with ⟨e, h⟩ | h
  · rw [h]
    exact .inl ⟨e, rfl⟩
  · rw [h]
    exact .inr rfl

end Stops

end Prog

end Calls

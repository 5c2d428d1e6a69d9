import Mathlib.Data.List.Basic
import Mathlib.Logic.Relation

/-!
# `Calls.Runs` — runs of a system and what holds along them

A system is a step function on states and events; a run is a list of events.  `Meets` says that every
step of a run satisfies a condition on the state before it and on its event, and the run rules carry
an invariant through such a run, by what one step preserves.  `Always` says that every state of a run
is good, and `always_iff_meets` when it is.

When a step is itself a sequence of transitions of a finer relation, `invariant_of_acts` asks only
what one transition preserves.
-/

namespace Calls

open Relation

variable {σ τ η : Type}

/-- **The state a run ends in.** -/
def runFrom (step : σ → η → σ) (s : σ) (es : List η) : σ :=
  es.foldl step s

/-- **Every step of the run meets the condition** on the state it starts in and its event. -/
def Meets (step : σ → η → σ) (C : σ → η → Prop) (s : σ) : List η → Prop
  | [] => True
  | e :: es => C s e ∧ Meets step C (step s e) es

instance decidableMeets {step : σ → η → σ} {C : σ → η → Prop} [∀ s e, Decidable (C s e)] :
    ∀ (s : σ) (es : List η), Decidable (Meets step C s es)
  | _, [] => isTrue trivial
  | s, e :: es =>
    have : Decidable (Meets step C (step s e) es) := decidableMeets (step s e) es
    inferInstanceAs (Decidable (C s e ∧ Meets step C (step s e) es))

@[simp] theorem runFrom_nil (step : σ → η → σ) (s : σ) : runFrom step s [] = s := rfl

@[simp] theorem runFrom_cons (step : σ → η → σ) (s : σ) (e : η) (es : List η) :
    runFrom step s (e :: es) = runFrom step (step s e) es := rfl

theorem runFrom_append (step : σ → η → σ) (s : σ) (es es' : List η) :
    runFrom step s (es ++ es') = runFrom step (runFrom step s es) es' :=
  List.foldl_append

theorem meets_append {step : σ → η → σ} {C : σ → η → Prop} {s : σ} {es es' : List η} :
    Meets step C s (es ++ es') ↔ Meets step C s es ∧ Meets step C (runFrom step s es) es' := by
  induction es generalizing s with
  | nil => simp [Meets]
  | cons e es ih =>
    simp only [List.cons_append, Meets, runFrom_cons, ih]
    exact and_assoc.symm

/-- Every run meets a condition that always holds. -/
theorem meets_of_forall {step : σ → η → σ} {C : σ → η → Prop} (h : ∀ s e, C s e) (s : σ)
    (es : List η) : Meets step C s es := by
  induction es generalizing s with
  | nil => trivial
  | cons e es ih => exact ⟨h s e, ih _⟩

/-- A run meets a condition that its events meet in every state. -/
theorem meets_of_events {step : σ → η → σ} {C : σ → η → Prop} {es : List η} (h : ∀ e ∈ es, ∀ s, C s e)
    (s : σ) : Meets step C s es := by
  induction es generalizing s with
  | nil => trivial
  | cons e es ih =>
    exact ⟨h e List.mem_cons_self s, ih (fun e' he => h e' (List.mem_cons_of_mem _ he)) _⟩

/-- What every event of a run satisfies can be added to what its steps meet. -/
theorem Meets.with_events {step : σ → η → σ} {C : σ → η → Prop} {D : η → Prop} {s : σ} {es : List η}
    (h : Meets step C s es) (hD : ∀ e ∈ es, D e) : Meets step (fun s e => C s e ∧ D e) s es := by
  induction es generalizing s with
  | nil => trivial
  | cons e es ih =>
    exact ⟨⟨h.1, hD e List.mem_cons_self⟩, ih h.2 fun e' he => hD e' (List.mem_cons_of_mem _ he)⟩

/-- **The run rule**: what holds at the start and is preserved by every step that meets the
    condition holds at the end of a run that meets it. -/
theorem run_invariant {step : σ → η → σ} {C : σ → η → Prop} {I : σ → Prop}
    (hstep : ∀ s e, C s e → I s → I (step s e)) {s : σ} {es : List η} (h : I s)
    (hes : Meets step C s es) : I (runFrom step s es) := by
  induction es generalizing s with
  | nil => exact h
  | cons e es ih => exact ih (hstep s e hes.1 h) hes.2

/-- **The step rule**: what every step that meets the condition satisfies in a state of the invariant is
    satisfied by every step of a run that meets it. -/
theorem Meets.of_invariant {step : σ → η → σ} {C P : σ → η → Prop} {I : σ → Prop}
    (hstep : ∀ s e, C s e → I s → I (step s e)) (hP : ∀ s e, C s e → I s → P s e) {s : σ} {es : List η}
    (h : I s) (hes : Meets step C s es) : Meets step P s es := by
  induction es generalizing s with
  | nil => trivial
  | cons e es ih => exact ⟨hP s e hes.1 h, ih (hstep s e hes.1 h) hes.2⟩

/-- **Every state of the run satisfies `P`**, the first and the last included. -/
def Always (step : σ → η → σ) (P : σ → Prop) (s : σ) : List η → Prop
  | [] => P s
  | e :: es => P s ∧ Always step P (step s e) es

/-- What holds in every state of a run holds in its last. -/
theorem Always.last {step : σ → η → σ} {P : σ → Prop} {s : σ} {es : List η}
    (h : Always step P s es) : P (runFrom step s es) := by
  induction es generalizing s with
  | nil => exact h
  | cons e es ih => exact ih h.2

/-- What holds in every state of a run holds in its first. -/
theorem Always.first {step : σ → η → σ} {P : σ → Prop} {s : σ} {es : List η}
    (h : Always step P s es) : P s := by
  cases es with
  | nil => exact h
  | cons e es => exact h.1

theorem always_append {step : σ → η → σ} {P : σ → Prop} {s : σ} {es es' : List η} :
    Always step P s (es ++ es') ↔ Always step P s es ∧ Always step P (runFrom step s es) es' := by
  induction es generalizing s with
  | nil => exact ⟨fun h => ⟨h.first, h⟩, And.right⟩
  | cons e es ih =>
    simp only [List.cons_append, Always, runFrom_cons, ih]
    exact and_assoc.symm

theorem Always.snoc {step : σ → η → σ} {P : σ → Prop} {s : σ} {es : List η} {e : η}
    (h : Always step P s es) (he : P (runFrom step s (es ++ [e]))) : Always step P s (es ++ [e]) := by
  rw [runFrom_append] at he
  exact always_append.mpr ⟨h, h.last, he⟩

/-- **The rule for every state**: what follows from an invariant is true all along a run whose steps keep
    the invariant. -/
theorem Always.of_invariant {step : σ → η → σ} {C : σ → η → Prop} {I P : σ → Prop}
    (hstep : ∀ s e, C s e → I s → I (step s e)) (hP : ∀ s, I s → P s) {s : σ} {es : List η} (h : I s)
    (hes : Meets step C s es) : Always step P s es := by
  induction es generalizing s with
  | nil => exact hP s h
  | cons e es ih => exact ⟨hP s h, ih (hstep s e hes.1 h) hes.2⟩

/-- **The exact rule**: where a step out of a good state leads into a good one exactly when it meets the
    condition, a run stays good exactly when its steps do.  The events of the run may be of a kind. -/
theorem always_iff_meets_of {step : σ → η → σ} {C : σ → η → Prop} {I P : σ → Prop} {D : η → Prop}
    (hkeeps : ∀ s e, D e → I s → I (step s e))
    (hstep : ∀ s e, D e → I s → P s → (P (step s e) ↔ C s e)) {s : σ} (hI : I s) (hP : P s)
    {es : List η} (hD : ∀ e ∈ es, D e) : Always step P s es ↔ Meets step C s es := by
  induction es generalizing s with
  | nil => simpa [Always, Meets] using hP
  | cons e es ih =>
    have hDe : D e := hD e List.mem_cons_self
    have hDes : ∀ e' ∈ es, D e' := fun e' he => hD e' (List.mem_cons_of_mem _ he)
    constructor
    · rintro ⟨_, hrest⟩
      have hgood := hrest.first
      exact ⟨(hstep s e hDe hI hP).mp hgood, (ih (hkeeps s e hDe hI) hgood hDes).mp hrest⟩
    · rintro ⟨hC, hrest⟩
      have hgood := (hstep s e hDe hI hP).mpr hC
      exact ⟨hP, (ih (hkeeps s e hDe hI) hgood hDes).mpr hrest⟩

/-- The exact rule for runs of any events. -/
theorem always_iff_meets {step : σ → η → σ} {C : σ → η → Prop} {I P : σ → Prop}
    (hkeeps : ∀ s e, I s → I (step s e)) (hstep : ∀ s e, I s → P s → (P (step s e) ↔ C s e))
    {s : σ} (hI : I s) (hP : P s) (es : List η) : Always step P s es ↔ Meets step C s es :=
  always_iff_meets_of (D := fun _ => True) (fun s e _ => hkeeps s e) (fun s e _ => hstep s e) hI hP
    fun _ _ => trivial

/-- **The run rule over transitions**: every step is a sequence of transitions of `R s e` on the
    abstract states, and each of them, taken on the way, preserves the invariant. -/
theorem invariant_of_acts {step : σ → η → σ} {C : σ → η → Prop} {abs : σ → τ}
    {R : σ → η → τ → τ → Prop} {I : τ → Prop}
    (hacts : ∀ s e, ReflTransGen (R s e) (abs s) (abs (step s e)))
    (hact : ∀ s e a a', C s e → I (abs s) → ReflTransGen (R s e) (abs s) a → I a → R s e a a' →
      I a') {s : σ} {es : List η} (h : I (abs s)) (hes : Meets step C s es) :
    I (abs (runFrom step s es)) := by
  refine run_invariant (I := fun s => I (abs s)) ?_ h hes
  intro s e hC hI
  have hreach := hacts s e
  generalize abs (step s e) = b at hreach ⊢
  induction hreach with
  | refl => exact hI
  | tail hpast hR ih => exact hact s e _ _ hC hI hpast ih hR

end Calls

import Mathlib.Data.List.Nodup
import Mathlib.Logic.Function.Basic
import RestoreOperator.Calls.Prog
import RestoreOperator.Calls.Runs

/-!
# `Calls.Routines` — routines that run side by side

A routine is a program taken call by call, so that the calls of several can come in any order.  A call
reads a cell and changes it in one go, or is turned down by the other party; an `ask` is a question to
a party outside the state.  Every call ends with a `Reply`, and one that did not succeed ends the routine.

The routines of a *pool* share a world of cells, and each works in the cell of its own key.  What becomes of
a routine and its cell is then what would have become of them alone, if no other routine has that key
(`own_run`); where routines may share a cell, `Writes` says what all their calls can do to it.
-/

namespace Calls

variable {α β κ ν : Type}

/-! ## One routine -/

/-- **A routine**: it is done, or was stopped by a failure, or waits on a call. -/
inductive Routine (β α ν : Type) where
  | done
  | stopped
  | call (act : ν → Option ν) (next : ν → Routine β α ν)
  | ask (q : β) (next : α → Routine β α ν)

namespace Routine

/-- A call that only reads. -/
def read (next : ν → Routine β α ν) : Routine β α ν := .call some next

/-- **A call ends.**  The other party may turn it down (`act` gives no state); else the reply says whether it
    took effect and what the routine learns. -/
def step (t : Routine β α ν) (reply : Reply Unit × α) (v : ν) : Routine β α ν × ν :=
  match t with
  | .done => (.done, v)
  | .stopped => (.stopped, v)
  | .call act next =>
    match act v with
    | none => (.stopped, v)
    | some v' =>
      (if reply.1.isOk then next v' else .stopped, if reply.1.tookEffect then v' else v)
  | .ask _ next => (if reply.1.isOk then next reply.2 else .stopped, v)

/-- The routine has come to its end, well or not. -/
def isEnded : Routine β α ν → Bool
  | .done => true
  | .stopped => true
  | .call _ _ => false
  | .ask _ _ => false

/-- The routine came to its end without a failure. -/
def isDone : Routine β α ν → Bool
  | .done => true
  | _ => false

/-- What happens to a routine: one of its calls ends, or its cell is changed by another party. -/
inductive OwnEvent (α ν : Type) where
  | ended (reply : Reply Unit × α)
  | changed (v : ν)

/-- A routine and its cell, after one event. -/
def own (s : Routine β α ν × ν) : OwnEvent α ν → Routine β α ν × ν
  | .ended reply => s.1.step reply s.2
  | .changed v => (s.1, v)

/-- **A routine and its cell, after some events.** -/
def run (t : Routine β α ν) (v : ν) (es : List (OwnEvent α ν)) : Routine β α ν × ν := runFrom own (t, v) es

theorem run_ended (t : Routine β α ν) (v : ν) (reply : Reply Unit × α) (es : List (OwnEvent α ν)) :
    t.run v (.ended reply :: es) = (t.step reply v).1.run (t.step reply v).2 es := rfl

/-- A routine that was stopped stays so. -/
theorem run_stopped (v : ν) (es : List (OwnEvent α ν)) :
    ((Routine.stopped : Routine β α ν).run v es).1 = .stopped := by
  induction es generalizing v with
  | nil => rfl
  | cons e es ih => cases e <;> exact ih _

/-! ## What a routine leads to -/

/-- The answer is one that `A` allows to the question the routine asks, if it asks one. -/
def Answered (A : β → α → Prop) (a : α) : Routine β α ν → Prop
  | .ask q _ => A q a
  | _ => True

/-- **What is relied on**: questions are answered by `A`, and the other parties change the cell by `R`. -/
def Allowed (A : β → α → Prop) (R : ν → ν → Prop) (s : Routine β α ν × ν) : OwnEvent α ν → Prop
  | .ended reply => s.1.Answered A reply.2
  | .changed v' => R s.2 v'

/-- Every event of the routine is one that is relied on. -/
def Relies (A : β → α → Prop) (R : ν → ν → Prop) (t : Routine β α ν) (v : ν) (es : List (OwnEvent α ν)) : Prop :=
  Meets own (Allowed A R) (t, v) es

/-- The other parties keep a property. -/
def Stable (R : ν → ν → Prop) (I : ν → Prop) : Prop := ∀ v v', R v v' → I v → I v'

/-- **A routine leads from `I` to `Q`**: if it comes to its end without a failure, `Q` holds of the cell. -/
def Leads (A : β → α → Prop) (R : ν → ν → Prop) (I Q : ν → Prop) (t : Routine β α ν) : Prop :=
  ∀ v, I v → ∀ es, Relies A R t v es → (t.run v es).1.isDone = true → Q (t.run v es).2

namespace Leads

variable {A : β → α → Prop} {R : ν → ν → Prop} {I Q : ν → Prop}

theorem done (hstable : Stable R Q) (h : ∀ v, I v → Q v) : Leads A R I Q (.done : Routine β α ν) := by
  intro v hI es hes hdone
  have hQ : Q v := h v hI
  clear hI hdone
  induction es generalizing v with
  | nil => exact hQ
  | cons e es ih =>
    cases e with
    | ended reply => exact ih v hes.2 hQ
    | changed v' => exact ih v' hes.2 (hstable v v' hes.1 hQ)

theorem stopped : Leads A R I Q (.stopped : Routine β α ν) := by
  intro v _ es _ hdone
  rw [run_stopped] at hdone
  cases hdone

/-- **A call** has to lead on only where it succeeded.  What follows starts from what it left, and from what
    the other parties made of that meanwhile. -/
theorem call {act : ν → Option ν} {next : ν → Routine β α ν} (hstable : Stable R I)
    (h : ∀ v v', I v → act v = some v' → ∃ J : ν → Prop, J v' ∧ Leads A R J Q (next v')) :
    Leads A R I Q (.call act next) := by
  intro v hI es hes hdone
  induction es generalizing v with
  | nil => cases hdone
  | cons e es ih =>
    cases e with
    | changed v' => exact ih v' (hstable v v' hes.1 hI) hes.2 hdone
    | ended reply =>
      have hrest := hes.2
      rw [run_ended] at hdone ⊢
      simp only [own, step] at hrest hdone ⊢
      cases hact : act v with
      | none =>
        simp only [hact] at hdone
        rw [run_stopped] at hdone
        cases hdone
      | some v' =>
        obtain ⟨J, hJ, hnext⟩ := h v v' hI hact
        simp only [hact] at hrest hdone ⊢
        cases hreply : reply.1 with
        | ok =>
          simp only [hreply, Reply.isOk_ok, Reply.tookEffect_ok, if_true] at hrest hdone ⊢
          exact hnext v' hJ es hrest hdone
        | _ =>
          simp only [hreply, Reply.isOk, Bool.false_eq_true, if_false, run_stopped, isDone] at hdone

theorem ask {q : β} {next : α → Routine β α ν} (hstable : Stable R I)
    (h : ∀ a, A q a → Leads A R I Q (next a)) : Leads A R I Q (.ask q next) := by
  intro v hI es hes hdone
  induction es generalizing v with
  | nil => cases hdone
  | cons e es ih =>
    cases e with
    | changed v' => exact ih v' (hstable v v' hes.1 hI) hes.2 hdone
    | ended reply =>
      obtain ⟨hanswer, hrest⟩ := hes
      rw [run_ended] at hdone ⊢
      simp only [own, step] at hrest hdone ⊢
      cases hreply : reply.1.isOk with
      | true =>
        simp only [hreply, if_true] at hrest hdone ⊢
        exact h reply.2 hanswer v hI es hrest hdone
      | false =>
        simp only [hreply, Bool.false_eq_true, if_false, run_stopped, isDone] at hdone

end Leads

/-! ## What a routine's calls can do -/

/-- **Every call of the routine changes its cell by `R`**, under answers with `A`. -/
def Writes (A : β → α → Prop) (R : ν → ν → Prop) : Routine β α ν → Prop
  | .done => True
  | .stopped => True
  | .call act next => ∀ v v', act v = some v' → R v v' ∧ (next v').Writes A R
  | .ask q next => ∀ a, A q a → (next a).Writes A R

/-- **What one call does**: it leaves the cell or changes it by `R`, and so will the rest. -/
theorem Writes.step {A : β → α → Prop} {R : ν → ν → Prop} {t : Routine β α ν} (h : t.Writes A R)
    {reply : Reply Unit × α} (hanswer : t.Answered A reply.2) (v : ν) :
    (t.step reply v).1.Writes A R ∧ ((t.step reply v).2 = v ∨ R v (t.step reply v).2) := by
  cases t with
  | done => exact ⟨trivial, .inl rfl⟩
  | stopped => exact ⟨trivial, .inl rfl⟩
  | call act next =>
    cases hact : act v with
    | none =>
      simp only [Routine.step, hact]
      exact ⟨trivial, .inl trivial⟩
    | some v' =>
      obtain ⟨hR, hnext⟩ := h v v' hact
      simp only [Routine.step, hact]
      constructor
      · split
        · exact hnext
        · trivial
      · split
        · exact .inr hR
        · exact .inl rfl
  | ask q next =>
    refine ⟨?_, .inl rfl⟩
    simp only [Routine.step]
    split
    · exact h reply.2 hanswer
    · trivial

theorem Writes.mono {A : β → α → Prop} {R R' : ν → ν → Prop} (hR : ∀ v v', R v v' → R' v v')
    {t : Routine β α ν} (h : t.Writes A R) : t.Writes A R' := by
  induction t with
  | done => trivial
  | stopped => trivial
  | call act next ih =>
    intro v v' hact
    obtain ⟨hv, hnext⟩ := h v v' hact
    exact ⟨hR v v' hv, ih v' hnext⟩
  | ask q next ih => exact fun a ha => ih a (h a ha)

/-- **The routine ends within `n` calls**, whatever comes of them. -/
def Within : Nat → Routine β α ν → Prop
  | _, .done => True
  | _, .stopped => True
  | 0, _ => False
  | n + 1, .call _ next => ∀ v, (next v).Within n
  | n + 1, .ask _ next => ∀ a, (next a).Within n

theorem within_done (n : Nat) : (.done : Routine β α ν).Within n := by
  cases n <;> trivial

theorem within_stopped (n : Nat) : (.stopped : Routine β α ν).Within n := by
  cases n <;> trivial

/-- Every call that ends is one less. -/
theorem Within.step {n : Nat} {t : Routine β α ν} (h : t.Within n) (reply : Reply Unit × α) (v : ν) :
    (t.step reply v).1.Within (n - 1) := by
  cases t with
  | done => exact within_done _
  | stopped => exact within_stopped _
  | call act next =>
    cases n with
    | zero => exact h.elim
    | succ n =>
      simp only [Routine.step]
      cases act v with
      | none => exact within_stopped _
      | some v' =>
        dsimp only
        split
        · exact h v'
        · exact within_stopped _
  | ask q next =>
    cases n with
    | zero => exact h.elim
    | succ n =>
      simp only [Routine.step]
      split
      · exact h reply.2
      · exact within_stopped _

theorem Within.ended {t : Routine β α ν} (h : t.Within 0) : t.isEnded = true := by
  cases t with
  | done => rfl
  | stopped => rfl
  | call act next => exact h.elim
  | ask q next => exact h.elim

end Routine

/-! ## A pool of routines -/

/-- A routine at work in the cell of a key. -/
structure Worker (κ β α ν : Type) where
  key : κ
  routine : Routine β α ν

/-- **A pool**: routines, and the cells they work in. -/
structure Pool (κ β α ν : Type) where
  workers : List (Worker κ β α ν)
  cells : κ → ν

/-- What happens in a pool: a call of a routine ends, or a cell is changed from outside. -/
inductive PoolEvent (κ α ν : Type) where
  | ended (i : Nat) (reply : Reply Unit × α)
  | changed (k : κ) (v : ν)

namespace Pool

variable [DecidableEq κ]

def step (p : Pool κ β α ν) : PoolEvent κ α ν → Pool κ β α ν
  | .ended i reply =>
    match p.workers[i]? with
    | none => p
    | some w =>
      let own := w.routine.step reply (p.cells w.key)
      { workers := p.workers.set i { w with routine := own.1 }
        cells := Function.update p.cells w.key own.2 }
  | .changed k v => { p with cells := Function.update p.cells k v }

/-- The events of one routine: the ends of its calls, and the changes of its cell from outside. -/
def ownEvents (i : Nat) (k : κ) (es : List (PoolEvent κ α ν)) : List (Routine.OwnEvent α ν) :=
  es.filterMap fun e =>
    match e with
    | .ended j reply => if j = i then some (.ended reply) else none
    | .changed k' v => if k' = k then some (.changed v) else none

/-- What is relied on in a pool: questions are answered by `A`, and a cell is changed from outside by `R`. -/
def Allowed (A : β → α → Prop) (R : κ → ν → ν → Prop) (p : Pool κ β α ν) : PoolEvent κ α ν → Prop
  | .ended i reply => ∀ w, p.workers[i]? = some w → w.routine.Answered A reply.2
  | .changed k v => R k (p.cells k) v

variable {p : Pool κ β α ν} {i : Nat} {w : Worker κ β α ν}

theorem step_changed (k : κ) (v : ν) :
    p.step (.changed k v) = { p with cells := Function.update p.cells k v } := rfl

/-- **A call that ends is its own routine's**, and changes that routine's cell at most. -/
theorem step_ended (hw : p.workers[i]? = some w) (reply : Reply Unit × α) :
    p.step (.ended i reply) =
      { workers := p.workers.set i { w with routine := (w.routine.step reply (p.cells w.key)).1 }
        cells := Function.update p.cells w.key (w.routine.step reply (p.cells w.key)).2 } := by
  simp only [step, hw]

theorem step_ended_none (hw : p.workers[i]? = none) (reply : Reply Unit × α) :
    p.step (.ended i reply) = p := by
  simp only [step, hw]

omit [DecidableEq κ] in
theorem key_mem (hw : p.workers[i]? = some w) : w.key ∈ p.workers.map Worker.key :=
  List.mem_map_of_mem (List.mem_of_getElem? hw)

/-- The keys of the routines do not change. -/
theorem step_keys (p : Pool κ β α ν) (e : PoolEvent κ α ν) :
    (p.step e).workers.map Worker.key = p.workers.map Worker.key := by
  cases e with
  | changed k v => rfl
  | ended i reply =>
    cases hw : p.workers[i]? with
    | none => rw [step_ended_none hw]
    | some w =>
      obtain ⟨hi, hget⟩ := List.getElem?_eq_some_iff.mp hw
      rw [step_ended hw]
      apply List.ext_getElem?
      intro n
      rw [List.map_set, List.getElem?_set]
      by_cases hn : i = n
      · subst hn
        rw [if_pos rfl, if_pos (by simpa using hi), List.getElem?_map, hw]
        rfl
      · rw [if_neg hn]

omit [DecidableEq κ] in
/-- Two routines have different keys, if no key is there twice. -/
theorem key_ne (hkeys : (p.workers.map Worker.key).Nodup) {i' : Nat} {w' : Worker κ β α ν}
    (hw : p.workers[i]? = some w) (hw' : p.workers[i']? = some w') (hne : i' ≠ i) : w'.key ≠ w.key := by
  intro hkey
  obtain ⟨hi, hget⟩ := List.getElem?_eq_some_iff.mp hw
  obtain ⟨hi', hget'⟩ := List.getElem?_eq_some_iff.mp hw'
  have hi₁ : i' < (p.workers.map Worker.key).length := by simpa using hi'
  have hi₂ : i < (p.workers.map Worker.key).length := by simpa using hi
  have hsame : (p.workers.map Worker.key)[i'] = (p.workers.map Worker.key)[i] := by
    rw [List.getElem_map, List.getElem_map, hget, hget', hkey]
  exact hne (hkeys.getElem_inj_iff.mp hsame)

/-- **One event of a pool, seen by one routine**: it is none of its own and leaves it and its cell, or it is
    its own and does what it would alone. -/
theorem own_step (hkeys : (p.workers.map Worker.key).Nodup) (hw : p.workers[i]? = some w)
    (e : PoolEvent κ α ν) (es : List (PoolEvent κ α ν)) :
    (ownEvents i w.key (e :: es) = ownEvents i w.key es ∧
      (p.step e).workers[i]? = some w ∧ (p.step e).cells w.key = p.cells w.key) ∨
    ∃ e', ownEvents i w.key (e :: es) = e' :: ownEvents i w.key es ∧
      (∀ A R, Allowed A R p e → Routine.Allowed A (R w.key) (w.routine, p.cells w.key) e') ∧
      (p.step e).workers[i]? = some { w with routine := (Routine.own (w.routine, p.cells w.key) e').1 } ∧
      (p.step e).cells w.key = (Routine.own (w.routine, p.cells w.key) e').2 := by
  cases e with
  | changed k v =>
    rw [step_changed]
    by_cases hk : k = w.key
    · refine .inr ⟨.changed v, ?_, fun A R h => hk ▸ h, hw, ?_⟩
      · simp [ownEvents, hk]
      · rw [hk]
        exact Function.update_self _ _ _
    · refine .inl ⟨?_, hw, Function.update_of_ne (Ne.symm hk) _ _⟩
      simp [ownEvents, hk]
  | ended i' reply =>
    cases hw' : p.workers[i']? with
    | none =>
      have hne : i' ≠ i := by
        rintro rfl
        rw [hw] at hw'
        cases hw'
      rw [step_ended_none hw']
      refine .inl ⟨?_, hw, rfl⟩
      simp [ownEvents, hne]
    | some w' =>
      rw [step_ended hw']
      by_cases hi : i' = i
      · -- the call is the routine's own
        subst hi
        obtain rfl : w = w' := Option.some.inj (hw.symm.trans hw')
        have hlt : i' < p.workers.length := (List.getElem?_eq_some_iff.mp hw).1
        refine .inr ⟨.ended reply, ?_, fun A R h => h w hw, ?_, Function.update_self _ _ _⟩
        · simp [ownEvents]
        · exact List.getElem?_set_self hlt
      · -- another routine's call leaves this one's cell
        have hkey := key_ne hkeys hw hw' hi
        refine .inl ⟨?_, ?_, Function.update_of_ne hkey.symm _ _⟩
        · simp [ownEvents, hi]
        · dsimp only
          rw [List.getElem?_set_ne hi, hw]

/-- **What becomes of a routine is its own doing**: whatever the other routines do and in whatever order the
    calls end, the routine and its cell are as after its own events alone. -/
theorem own_run (hkeys : (p.workers.map Worker.key).Nodup) (hw : p.workers[i]? = some w)
    (es : List (PoolEvent κ α ν)) :
    let own := w.routine.run (p.cells w.key) (ownEvents i w.key es)
    (runFrom step p es).workers[i]? = some { w with routine := own.1 } ∧
      (runFrom step p es).cells w.key = own.2 := by
  induction es generalizing p w with
  | nil => exact ⟨hw, rfl⟩
  | cons e es ih =>
    have hkeys' : ((p.step e).workers.map Worker.key).Nodup := by rwa [step_keys]
    rw [runFrom_cons]
    obtain ⟨hother, hworker, hcell⟩ | ⟨e', hevents, _, hworker, hcell⟩ := own_step hkeys hw e es
    · rw [hother, ← hcell]
      exact ih hkeys' hworker
    · rw [hevents]
      have hrest := ih (w := { w with routine := (Routine.own (w.routine, p.cells w.key) e').1 }) hkeys'
        hworker
      dsimp only at hrest
      rw [hcell] at hrest
      exact hrest

/-- What is relied on in a pool is relied on by each of its routines. -/
theorem own_relies {A : β → α → Prop} {R : κ → ν → ν → Prop} (hkeys : (p.workers.map Worker.key).Nodup)
    (hw : p.workers[i]? = some w) {es : List (PoolEvent κ α ν)} (hes : Meets step (Allowed A R) p es) :
    w.routine.Relies A (R w.key) (p.cells w.key) (ownEvents i w.key es) := by
  induction es generalizing p w with
  | nil => trivial
  | cons e es ih =>
    have hkeys' : ((p.step e).workers.map Worker.key).Nodup := by rwa [step_keys]
    obtain ⟨hother, hworker, hcell⟩ | ⟨e', hevents, hallowed, hworker, hcell⟩ := own_step hkeys hw e es
    · rw [hother, ← hcell]
      exact ih hkeys' hworker hes.2
    · rw [hevents]
      refine ⟨hallowed A R hes.1, ?_⟩
      have hrest := ih (w := { w with routine := (Routine.own (w.routine, p.cells w.key) e').1 }) hkeys'
        hworker hes.2
      dsimp only at hrest
      rw [hcell] at hrest
      exact hrest

/-- **A routine of a pool comes to what it leads to**, whatever the others do. -/
theorem own_leads {A : β → α → Prop} {R : κ → ν → ν → Prop} {I Q : ν → Prop}
    (hkeys : (p.workers.map Worker.key).Nodup) (hw : p.workers[i]? = some w) {es : List (PoolEvent κ α ν)}
    (hes : Meets step (Allowed A R) p es) (hleads : w.routine.Leads A (R w.key) I Q)
    (hI : I (p.cells w.key)) {w' : Worker κ β α ν} (hw' : (runFrom step p es).workers[i]? = some w')
    (hdone : w'.routine.isDone = true) : Q ((runFrom step p es).cells w.key) := by
  obtain ⟨hworker, hcell⟩ := own_run hkeys hw es
  rw [hw', Option.some.injEq] at hworker
  rw [hworker] at hdone
  rw [hcell]
  exact hleads _ hI _ (own_relies hkeys hw hes) hdone

/-- The calls of the `i`-th routine change its cell by `R i`. -/
def AllWrite (A : β → α → Prop) (R : Nat → ν → ν → Prop) (workers : List (Worker κ β α ν)) : Prop :=
  ∀ (i : Nat) (w : Worker κ β α ν), workers[i]? = some w → w.routine.Writes A (R i)

/-- **What the end of a call does to the cells**, where the calls of each routine are among its `R`: the cell
    of its own routine is changed by that `R` at most. -/
theorem writes_step {A : β → α → Prop} {R : Nat → ν → ν → Prop}
    (h : AllWrite A R p.workers) {reply : Reply Unit × α}
    (hanswer : ∀ w, p.workers[i]? = some w → w.routine.Answered A reply.2) :
    AllWrite A R (p.step (.ended i reply)).workers ∧
      ∀ k, (p.step (.ended i reply)).cells k = p.cells k ∨
        ∃ w, p.workers[i]? = some w ∧ w.key = k ∧ R i (p.cells k) ((p.step (.ended i reply)).cells k) := by
  cases hw : p.workers[i]? with
  | none =>
    rw [step_ended_none hw]
    exact ⟨h, fun k => .inl rfl⟩
  | some w =>
    obtain ⟨hnext, hcell⟩ := (h i w hw).step (hanswer w hw) (p.cells w.key)
    have hlt : i < p.workers.length := (List.getElem?_eq_some_iff.mp hw).1
    rw [step_ended hw]
    constructor
    · intro j w' hw'
      dsimp only at hw'
      by_cases hj : i = j
      · subst hj
        rw [List.getElem?_set_self hlt, Option.some.injEq] at hw'
        rw [← hw']
        exact hnext
      · rw [List.getElem?_set_ne hj] at hw'
        exact h j w' hw'
    · intro k
      dsimp only
      by_cases hk : k = w.key
      · subst hk
        rw [Function.update_self]
        exact hcell.imp_right fun hR => ⟨w, rfl, rfl, hR⟩
      · rw [Function.update_of_ne hk]
        exact .inl rfl

/-- How many calls of a routine ended. -/
def ends (i : Nat) (es : List (PoolEvent κ α ν)) : Nat :=
  es.countP fun e =>
    match e with
    | .ended j _ => j = i
    | .changed _ _ => false

/-- **A cell no routine works in** keeps what the other parties keep. -/
theorem idle_cell {A : β → α → Prop} {R : κ → ν → ν → Prop} {k : κ} {I : ν → Prop}
    (hk : k ∉ p.workers.map Worker.key) (hstable : Routine.Stable (R k) I) {es : List (PoolEvent κ α ν)}
    (hes : Meets step (Allowed A R) p es) (hI : I (p.cells k)) : I ((runFrom step p es).cells k) := by
  induction es generalizing p with
  | nil => exact hI
  | cons e es ih =>
    refine ih (by rwa [step_keys]) hes.2 ?_
    cases e with
    | changed k' v =>
      rw [step_changed]
      by_cases hkey : k = k'
      · subst hkey
        have hcell : Function.update p.cells k v k = v := Function.update_self _ _ _
        dsimp only
        rw [hcell]
        exact hstable _ _ hes.1 hI
      · have hcell : Function.update p.cells k' v k = p.cells k := Function.update_of_ne hkey _ _
        dsimp only
        rwa [hcell]
    | ended i reply =>
      cases hw : p.workers[i]? with
      | none => rwa [step_ended_none hw]
      | some w =>
        rw [step_ended hw]
        have hne : k ≠ w.key := by
          rintro rfl
          exact hk (key_mem hw)
        have hcell := Function.update_of_ne hne (w.routine.step reply (p.cells w.key)).2 p.cells
        dsimp only
        rwa [hcell]

end Pool

end Calls

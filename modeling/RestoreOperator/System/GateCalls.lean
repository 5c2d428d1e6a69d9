import RestoreOperator.System.Lifecycle
import RestoreOperator.System.ReplicaPass

/-!
# `System.GateCalls` — the gates a pass calls

A pass that finds a restore Switching calls the gates of its switchover in turn, each one once the gate
before has let the restore through.  A call is what the gate was called with and the world it was called in,
so that a gate can be judged by itself while the pass around it goes on or ends.
-/

namespace RestoreOperator

open Calls Calls.Prog

/-! ## Calls -/

/-- A gate of the switchover. -/
inductive Gate where
  | redaction
  | migration
  | build
  deriving Repr, DecidableEq

/-- **A call of a gate.** -/
structure GateCall where
  gate : Gate
  replica : Replica
  restore : Restore
  active : Option Restore
  world : World

namespace GateCall

/-- What is called. -/
def program (ctx : Context) (p : ReplicaPass) (c : GateCall) : Op Bool :=
  match c.gate with
  | .redaction => reconcileRedactionStep p c.replica c.restore
  | .migration => reconcileSchemaMigration ctx p c.replica c.restore c.active
  | .build => reconcileSchemaBuild ctx p c.replica c.restore

/-- **The gate lets the restore through.** -/
def opens (ctx : Context) (p : ReplicaPass) (c : GateCall) : Bool :=
  match c.program ctx p p.replies c.world with
  | .done true _ => true
  | _ => false

end GateCall

/-- What a pass does up to the list of its restores; it may end before. -/
def readRestores (p : ReplicaPass) (replica : Replica) : Op (Option (List Restore)) := do
  let returned ← validateCredentials p replica
  match returned with
  | some _ => return none
  | none => do
    ensureObjects replica
    let restores ← Prog.read .listRestores fun w => w.restores
    return some restores

/-- The calls of the gates, one after the other. -/
def gateCallsFrom (ctx : Context) (p : ReplicaPass) (replica : Replica) (switching : Restore)
    (active : Option Restore) (w : World) : List GateCall :=
  let call (gate : Gate) (w : World) : GateCall :=
    { gate := gate, replica := replica, restore := switching, active := active, world := w }
  (if replica.spec.redaction.isSome then [call .redaction w] else []) ++
    match redactionGate p replica switching p.replies w with
    | .done true w₁ =>
      (if replica.spec.persistentSchemas.isSome then [call .migration w₁] else []) ++
        match schemaMigrationGate ctx p replica switching active p.replies w₁ with
        | .done true w₂ => [call .build w₂]
        | _ => []
    | _ => []

/-- **The gates a pass calls.** -/
def gateCalls (ctx : Context) (p : ReplicaPass) (w : World) : List GateCall :=
  match readRestores p w.replica p.replies w with
  | .done (some restores) w₁ =>
    match switchingRestore restores with
    | none => []
    | some r => gateCallsFrom ctx p w.replica r (activeRestore restores) w₁
  | _ => []

section Calls

variable {ctx : Context} {p : ReplicaPass} {w : World} {ρ : Call → Reply Error}

/-! ## What a call is made with -/

/-- The restores a pass lists are those that are stored. -/
theorem readRestores_eq_done {replica : Replica} {restores : List Restore} {w₁ : World}
    (h : readRestores p replica ρ w = .done (some restores) w₁) : restores = w.restores := by
  obtain ⟨returned, w₂, hreturned, hrest⟩ := bind_eq_done h
  have hvalidated := (quiet_validateCredentials p replica).of_eq_done hreturned
  have h₂ : w₂.restores = w.restores := (Prod.mk.inj hvalidated).2
  cases returned with
  | some action => cases hrest
  | none =>
    obtain ⟨_, w₃, hensured, hrest⟩ := bind_eq_done hrest
    have hobjects := (quiet_ensureObjects replica).of_eq_done hensured
    have h₃ : w₃.restores = w.restores := (Prod.mk.inj hobjects).2.trans h₂
    obtain ⟨listed, w₄, hread, hreturn⟩ := bind_eq_done hrest
    obtain ⟨hsame, _⟩ := Outcome.done.inj hreturn
    unfold Prog.read at hread
    cases hr : ρ .listRestores <;> rw [hr] at hread <;> cases hread
    rw [← Option.some.inj hsame]
    exact h₃

/-- **What is known of a call**: it is made with what the pass found when it started, the first one right
    after the pass has listed the restores. -/
structure Called (p : ReplicaPass) (w : World) (c : GateCall) : Prop where
  replica : c.replica = w.replica
  restore : switchingRestore w.restores = some c.restore
  active : c.active = activeRestore w.restores
  redaction : c.gate = .redaction → w.replica.spec.redaction.isSome = true ∧
    readRestores p w.replica p.replies w = .done (some w.restores) c.world
  migration : c.gate = .migration → w.replica.spec.persistentSchemas.isSome = true

theorem called_of_mem {c : GateCall} (h : c ∈ gateCalls ctx p w) : Called p w c := by
  unfold gateCalls at h
  split at h
  swap
  · cases h
  rename_i restores w₁ hread
  obtain rfl := readRestores_eq_done hread
  split at h
  · cases h
  rename_i r hr
  unfold gateCallsFrom at h
  simp only [List.mem_append] at h
  rcases h with h | h
  · split at h
    · rename_i hredaction
      obtain rfl := List.mem_singleton.mp h
      exact ⟨rfl, hr, rfl, fun _ => ⟨hredaction, hread⟩, fun hgate => nomatch hgate⟩
    · cases h
  split at h
  swap
  · cases h
  rcases List.mem_append.mp h with h | h
  · split at h
    · rename_i hschemas
      obtain rfl := List.mem_singleton.mp h
      exact ⟨rfl, hr, rfl, (fun hgate => nomatch hgate), fun _ => hschemas⟩
    · cases h
  · split at h
    · obtain rfl := List.mem_singleton.mp h
      exact ⟨rfl, hr, rfl, (fun hgate => nomatch hgate), fun hgate => nomatch hgate⟩
    · cases h

/-! ## The pass around the calls -/

/-- A pass that has listed the restores goes on with them. -/
theorem reconcile_of_read {restores : List Restore} {w₁ : World}
    (h : readRestores p w.replica ρ w = .done (some restores) w₁) :
    reconcile ctx p ρ w = reconcileRestores ctx p w.replica restores ρ w₁ := by
  obtain ⟨returned, w₂, hreturned, hrest⟩ := bind_eq_done h
  cases returned with
  | some action => cases hrest
  | none =>
    obtain ⟨_, w₃, hensured, hrest⟩ := bind_eq_done hrest
    obtain ⟨listed, w₄, hlisted, hreturn⟩ := bind_eq_done hrest
    obtain ⟨hsame, rfl⟩ := Outcome.done.inj hreturn
    obtain rfl := Option.some.inj hsame
    have hpass : reconcile ctx p ρ w = (Prog.unlessReturned (validateCredentials p w.replica) (do
        ensureObjects w.replica
        let restores ← Prog.read .listRestores fun w => w.restores
        reconcileRestores ctx p w.replica restores)) ρ w := rfl
    rw [hpass]
    apply (bind_of_done hreturned).trans
    exact (bind_of_done hensured).trans (bind_of_done hlisted)

/-- The block of a switching restore ends the pass. -/
theorem reconcileRestores_state {replica : Replica} {restores : List Restore} {r : Restore}
    (hr : switchingRestore restores = some r) :
    (reconcileRestores ctx p replica restores ρ w).state =
      (reconcileSwitchover ctx p replica restores ρ w).state := by
  have hreturns : Yields (fun returned => returned.isSome = true)
      (reconcileSwitchover ctx p replica restores) := by
    unfold reconcileSwitchover
    rw [hr]
    refine Yields.bind fun open_ => ?_
    split
    · exact Yields.ret rfl
    · exact Yields.bind fun _ => Yields.ret rfl
  show (Prog.unlessReturned (reconcileSwitchover ctx p replica restores) _ ρ w).state = _
  unfold Prog.unlessReturned Prog.andThen
  cases hrun : reconcileSwitchover ctx p replica restores ρ w with
  | done returned w' =>
    obtain ⟨action, rfl⟩ := Option.isSome_iff_exists.mp (hreturns ρ w returned w' hrun)
    rfl
  | failed e w' => rfl
  | halted w' => rfl

end Calls

end RestoreOperator

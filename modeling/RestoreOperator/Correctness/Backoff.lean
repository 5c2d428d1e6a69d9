import RestoreOperator.System.Failing
import RestoreOperator.System.Invariants

/-!
# `Correctness.Backoff` — the backoff after failures

A failed restore writes the earliest time of the next attempt into `status.nextScheduledRestore`, a
field it shares with the schedule.  Of the four triggers of a restore only the never-restored one asks
for the backoff: the deletion of the current restore and a new offer of canopy start a restore at once,
and a changed schedule computes the field anew.  Where none of these comes in the way, and the failures
follow each other, no pass starts a restore while the backoff is pending, and the time is not moved
forward before it has come.
-/

namespace RestoreOperator

open Calls Calls.Prog Relation

variable {ctx : Context} {w₀ : World}

/-- The last failure in a log: the how manieth in a row it was, and when. -/
def lastFailure : List Entry → Option (Nat × Timestamp)
  | [] => none
  | .failureRecorded _ n t :: _ => some (n, t)
  | _ :: past => lastFailure past

/-- The time the last failure in a log put the next attempt at. -/
def lastBackoff (past : List Entry) : Option Timestamp :=
  (lastFailure past).bind fun (n, t) => (failureBackoffDelay n).map (t + ·)

/-- How many restores of the replica have failed in a row. -/
def failures (w : World) : Nat :=
  w.replica.status.consecutiveRestoreFailures.getD 0

/-- **The backoff of the last failure has not ended** when the clock reads `now`. -/
def backoffRuns (w : World) (now : Timestamp) : Bool :=
  (lastBackoff w.history).any fun ends => now < ends

/-- **A failure would not follow the last one**: the clock went back since, or the count was reset. -/
def countsAnew (w : World) (failedAt : Timestamp) : Bool :=
  (lastFailure w.history).any fun (n, t) => failedAt < t || failures w + 1 < n

/-- **A backoff is overridden.**  A pass that comes to its trigger finds one that does not ask for the
    backoff, or a schedule that changed or came due before the backoff has ended; or a restore fails again
    before it has, and does not add to the failure that started it. -/
def overridesBackoff (ctx : Context) (w : World) : Event → Bool
  | .replicaPass p =>
    comesToTrigger w &&
      (backoffPending w.replica.status p.now &&
          (activeRestoreDeleted w.replica.status w.restores ||
            canopyDesiredChanged w.replica w.restores p.now ||
            -- the schedule is looked at by a second reading of the clock
            checkSchedule w.replica.spec w.replica.status p.scheduleNow == .trigger) ||
        backoffRuns w p.now &&
          (scheduleChanged ctx w.replica ||
            checkSchedule w.replica.spec w.replica.status p.scheduleNow != .notDue))
  | .restorePass name p =>
    (w.restores.find? fun r => r.name == name).any (fun r => comesToFailed ctx p r w) &&
      backoffRuns w p.failedAt && countsAnew w p.failedAt
  | _ => false

/-! ## The delay -/

/-- A failure holds the next attempt back. -/
theorem failureBackoffDelay_succ (n : Nat) : ∃ delay, failureBackoffDelay (n + 1) = some delay :=
  ⟨_, rfl⟩

/-- More failures hold it back for no less. -/
theorem failureBackoffDelay_mono {m n : Nat} {d d' : Duration} (hle : m ≤ n)
    (hd : failureBackoffDelay m = some d) (hd' : failureBackoffDelay n = some d') : d ≤ d' := by
  unfold failureBackoffDelay at hd hd'
  split at hd
  · cases hd
  split at hd'
  · cases hd'
  cases hd
  cases hd'
  have hexponent : 2 ^ min m 20 ≤ 2 ^ min n 20 :=
    Nat.pow_le_pow_right (by decide) (min_le_min_right 20 hle)
  exact Int.ofNat_le.mpr (max_le_max_left 120 (min_le_min_right 3600 (Nat.mul_le_mul_left 60 hexponent)))

/-- **The entries a step has added** all satisfy `P`. -/
def Adds (P : Entry → Prop) (w₀ : World) (a : Control) : Prop :=
  ∃ new, a.history = new ++ w₀.history ∧ ∀ e ∈ new, P e

namespace Adds

variable {P : Entry → Prop} {a a' : Control}

theorem none (h : a.history = w₀.history) : Adds P w₀ a :=
  ⟨[], h, by simp⟩

theorem same (h : Adds P w₀ a) (hhistory : a'.history = a.history) : Adds P w₀ a' := by
  obtain ⟨new, hnew, hP⟩ := h
  exact ⟨new, hhistory.trans hnew, hP⟩

theorem cons {e : Entry} (h : Adds P w₀ a) (he : P e) (hhistory : a'.history = e :: a.history) :
    Adds P w₀ a' := by
  obtain ⟨new, hnew, hP⟩ := h
  refine ⟨e :: new, by rw [hhistory, hnew]; rfl, ?_⟩
  intro x hx
  rcases List.mem_cons.mp hx with rfl | hx
  · exact he
  · exact hP x hx

end Adds

/-- **What the replica controller adds to the log**: it records no failure, and it lists the snapshots
    only where it starts a restore. -/
theorem ReplicaAct.adds {p : ReplicaPass} {P : Entry → Prop} {a a' : Control}
    (h : ReplicaAct ctx p w₀ a a')
    (hother : ∀ e, (∀ u n t, e ≠ .failureRecorded u n t) → (∀ j, e ≠ .snapshotJobCreated j) → P e)
    (hstart : isAdmitted w₀ (.replicaPass p) = true → ∀ j, P (.snapshotJobCreated j))
    (ha : Adds P w₀ a) : Adds P w₀ a' := by
  cases h with
  | snapshotJobCreated htrigger hshould hjob _ hfree =>
    have hin : isAdmitted w₀ (.replicaPass p) = true := by
      simp [isAdmitted, htrigger, hshould, hjob, hfree]
    exact ha.cons (hstart hin _) rfl
  | @switchedOverReported r =>
    have hactivated : Adds P w₀ (a.log (.activated r.uid (activeRestore w₀.restores).isSome)) :=
      ha.cons (hother _ (by simp) (by simp)) rfl
    exact hactivated.cons (hother (.reported r.uid .success) (by simp) (by simp)) rfl
  | migrationSettled _ he =>
    exact ha.cons (hother _ (by cases he <;> simp) (by cases he <;> simp)) rfl
  | _ =>
    first
    | exact ha.same rfl
    | exact ha.cons (hother _ (by simp) (by simp)) rfl

theorem adds_of_acts {p : ReplicaPass} {P : Entry → Prop} {a : Control}
    (hother : ∀ e, (∀ u n t, e ≠ .failureRecorded u n t) → (∀ j, e ≠ .snapshotJobCreated j) → P e)
    (hstart : isAdmitted w₀ (.replicaPass p) = true → ∀ j, P (.snapshotJobCreated j))
    (h : ReflTransGen (Act ctx w₀ (.replicaPass p)) (control w₀) a) : Adds P w₀ a := by
  induction h with
  | refl => exact .none rfl
  | tail _ h ih =>
    cases h with
    | replica h => exact h.adds hother hstart ih
    | forgotten => exact ih.same rfl

/-! ## A pass of the replica controller -/

/-- The replica controller records no failure. -/
theorem ReplicaAct.lastFailure {p : ReplicaPass} {a a' : Control} (h : ReplicaAct ctx p w₀ a a') :
    lastFailure a'.history = lastFailure a.history := by
  cases h with
  | migrationSettled _ he => cases he <;> rfl
  | _ => rfl

/-- As long as a pass on a restore has logged nothing, no failure was counted. -/
theorem RestoreAct.failures {p : RestorePass} {r : Restore} {a a' : Control}
    (h : RestoreAct p w₀ r a a') (hgrown : w₀.history <:+ a.history)
    (ha : a.history = w₀.history → a.failures = failures w₀) :
    a'.history = w₀.history → a'.failures = RestoreOperator.failures w₀ := by
  -- a logged entry makes the log longer than it was
  have hlonger : ∀ e, e :: a.history ≠ w₀.history := by
    intro e hsame
    have hlength := congrArg List.length hsame
    have hle := hgrown.length_le
    simp only [List.length_cons] at hlength
    omega
  cases h with
  | failureRecorded => exact fun hsame => absurd hsame (hlonger _)
  | switching => exact fun hsame => absurd hsame (hlonger _)
  | reported => exact fun hsame => absurd hsame (hlonger _)
  | _ => exact ha

theorem failures_of_acts {name : String} {p : RestorePass} {a : Control}
    (h : ReflTransGen (Act ctx w₀ (.restorePass name p)) (control w₀) a) :
    a.history = w₀.history → a.failures = failures w₀ := by
  induction h with
  | refl => exact fun _ => rfl
  | tail hreach h ih =>
    cases h with
    | restore _ h => exact h.failures (history_of_acts hreach) ih
    | forgotten => exact ih

/-! ## The time of the next attempt -/

/-- **The backoff that ends at `b` is kept**: the last failure put the next attempt at `b` or later,
    and it is not scheduled before that. -/
def Held (b : Timestamp) (a : Control) : Prop :=
  ∃ ends next, lastBackoff a.history = some ends ∧ a.next = some next ∧ b ≤ ends ∧ ends ≤ next

theorem Held.same {b : Timestamp} {a a' : Control} (h : Held b a)
    (hlast : lastFailure a'.history = lastFailure a.history) (hnext : a'.next = a.next) : Held b a' := by
  obtain ⟨ends, next, hends, hn, hle⟩ := h
  exact ⟨ends, next, by rw [lastBackoff, hlast]; exact hends, hnext.trans hn, hle⟩

/-- Before the time that is kept, the backoff of the last failure runs. -/
theorem Held.backoffRuns {b now : Timestamp} (h : Held b (control w₀)) (hnow : now < b) :
    backoffRuns w₀ now = true := by
  obtain ⟨ends, _, hends, _, hb, _⟩ := h
  have hlast : lastBackoff w₀.history = some ends := hends
  rw [RestoreOperator.backoffRuns, hlast, Option.any_some]
  exact decide_eq_true (hnow.trans_le hb)

/-- A failure that adds to the last one starts a backoff that ends no earlier. -/
theorem Held.le_of_failure {b failedAt : Timestamp} {delay : Duration} (h : Held b (control w₀))
    (hcount : countsAnew w₀ failedAt = false)
    (hdelay : failureBackoffDelay (failures w₀ + 1) = some delay) : b ≤ failedAt + delay := by
  obtain ⟨ends, _, hends, _, hb, _⟩ := h
  obtain ⟨⟨n, t⟩, hlast, hbackoff⟩ := Option.bind_eq_some_iff.mp hends
  obtain ⟨d, hd, rfl⟩ := Option.map_eq_some_iff.mp hbackoff
  have hlast : RestoreOperator.lastFailure w₀.history = some (n, t) := hlast
  simp only [countsAnew, hlast, Option.any_some, Bool.or_eq_false_iff, decide_eq_false_iff_not,
    not_lt] at hcount
  have hlonger : d ≤ delay := failureBackoffDelay_mono hcount.2 hd hdelay
  exact hb.trans (add_le_add hcount.1 hlonger)

/-- The clock readings of a pass come before a time. -/
def readsBefore (b : Timestamp) : Event → Bool
  | .replicaPass p => p.now < b
  | .restorePass _ p => p.failedAt < b
  | _ => true

theorem ReplicaAct.held {p : ReplicaPass} {b : Timestamp} {a a' : Control}
    (h : ReplicaAct ctx p w₀ a a') (hC : overridesBackoff ctx w₀ (.replicaPass p) = false)
    (hnow : p.now < b) (h₀ : Held b (control w₀)) (ha : Held b a) : Held b a' := by
  have hlast := h.lastFailure
  have hruns := h₀.backoffRuns hnow
  have hquiet : comesToTrigger w₀ = true → scheduleChanged ctx w₀.replica = false ∧
      checkSchedule w₀.replica.spec w₀.replica.status p.scheduleNow = .notDue := by
    intro htrigger
    simp only [overridesBackoff, htrigger, hruns, Bool.true_and, Bool.or_eq_false_iff,
      bne_eq_false_iff_eq] at hC
    exact hC.2
  cases h with
  -- the two acts that write the time follow a schedule that changed, or came due
  | scheduleRecomputed next htrigger hnext =>
    obtain ⟨_, written, _, hwritten, _⟩ := h₀
    have hsome : w₀.replica.status.nextScheduledRestore = some written := hwritten
    simp [recomputedSchedule, (hquiet htrigger).1, hsome] at hnext
  | scheduleAdvanced next htrigger hsettle hnext =>
    simp [advancedSchedule, (hquiet htrigger).2] at hnext
  | _ => exact ha.same hlast rfl

/-- A pass on a restore records no failure that ends the backoff early: because the failure adds to the
    last one, or because the restore is not marked Failed. -/
theorem RestoreAct.held {p : RestorePass} {r : Restore} {b : Timestamp} {a a' : Control}
    (h : RestoreAct p w₀ r a a')
    (hC : countsAnew w₀ p.failedAt = false ∨ (p.replies .patchFailed).isOk = false)
    (h₀ : Held b (control w₀))
    (hfailures : a.history = w₀.history → a.failures = RestoreOperator.failures w₀) (ha : Held b a) :
    Held b a' := by
  cases h with
  | failureRecorded _ hlog hmarked =>
    have hcount : countsAnew w₀ p.failedAt = false := by
      rcases hC with hcount | hunmarked
      · exact hcount
      · rw [hmarked] at hunmarked
        cases hunmarked
    obtain ⟨delay, hdelay⟩ := failureBackoffDelay_succ (RestoreOperator.failures w₀)
    have hlater := h₀.le_of_failure hcount hdelay
    have hnext : (failureBackoffDelay (a.failures + 1)).map (p.failedAt + ·) =
        some (p.failedAt + delay) := by
      rw [hfailures hlog, hdelay]
      rfl
    exact ⟨p.failedAt + delay, p.failedAt + delay, hnext, hnext, hlater, le_rfl⟩
  | _ => exact ha.same rfl rfl

/-! ## The steps -/

theorem step_refusingFailed {name : String} {p : RestorePass}
    (h : (w₀.restores.find? fun r => r.name == name).any (fun r => comesToFailed ctx p r w₀) = false) :
    step ctx w₀ (.restorePass name p) =
      step ctx w₀ (.restorePass name { p with replies := refusingFailed p.replies }) := by
  cases hr : w₀.restores.find? fun r => r.name == name with
  | none => simp only [step, hr]
  | some r =>
    rw [hr, Option.any_some] at h
    simp only [step, hr, ← reconcileRestore_refusingFailed h]
    rfl

/-- A step keeps the backoff, if each of its acts does. -/
theorem held_of_acts {e : Event} {b : Timestamp} {a : Control} (h₀ : Held b (control w₀))
    (hact : ∀ a a', ReflTransGen (Act ctx w₀ e) (control w₀) a → Held b a → Act ctx w₀ e a a' →
      Held b a') (h : ReflTransGen (Act ctx w₀ e) (control w₀) a) : Held b a := by
  induction h with
  | refl => exact h₀
  | tail hreach h ih => exact hact _ _ hreach ih h

theorem held_of_restorePass {name : String} {p : RestorePass} {b : Timestamp}
    (hC : countsAnew w₀ p.failedAt = false ∨ (p.replies .patchFailed).isOk = false)
    (h₀ : Held b (control w₀)) : Held b (control (step ctx w₀ (.restorePass name p))) := by
  refine held_of_acts h₀ (fun a a' hreach ha h => ?_) (step_acts ctx w₀ _)
  cases h with
  | restore _ h => exact h.held hC h₀ (failures_of_acts hreach) ha
  | forgotten => exact ha.same rfl rfl

/-- **A step keeps the backoff** if it does not override it and reads the clock before it ends. -/
theorem Held.step {e : Event} {b : Timestamp} (hC : overridesBackoff ctx w₀ e = false)
    (hnow : readsBefore b e = true) (h : Held b (control w₀)) :
    Held b (control (step ctx w₀ e)) := by
  by_cases hpass : ∃ name p, e = .restorePass name p
  · obtain ⟨name, p, rfl⟩ := hpass
    have hruns := h.backoffRuns (of_decide_eq_true hnow)
    simp only [overridesBackoff, hruns, Bool.and_true, Bool.and_eq_false_iff] at hC
    rcases hC with hspared | hcount
    -- nothing is marked Failed, so the mark may as well be refused
    · rw [step_refusingFailed hspared]
      exact held_of_restorePass (.inr rfl) h
    · exact held_of_restorePass (.inl hcount) h
  · refine held_of_acts h (fun a a' _ ha hact => ?_) (step_acts ctx w₀ e)
    cases hact with
    | replica hact => exact hact.held hC (of_decide_eq_true hnow) h ha
    | restore => exact absurd ⟨_, _, rfl⟩ hpass
    | _ => exact ha.same rfl rfl

/-! ## The failure that starts a backoff -/

/-- A restore starts, and its Job fails. -/
def bringDown (name : String) (t : Timestamp) : List Event :=
  [.restorePass name { now := t }, .restorePass name { now := t },
    .jobReported (.restore name) { failed := some 10, conditions := [("Failed", "True")] },
    .restorePass name { now := t }]

end RestoreOperator

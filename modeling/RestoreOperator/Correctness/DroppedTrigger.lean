import RestoreOperator.Correctness.JobCallbacks

/-!
# `Correctness.DroppedTrigger` — a due restore and the Job that lists its snapshots

When the schedule of a replica is due, a pass creates a Job that lists the snapshots, and the schedule is
advanced once the list has been taken.  A pass creates no Job while one of that name exists, though, and a
Job that failed is kept for a day: the pass that finds it goes on to the end, where the schedule is advanced
all the same.

A due time is moved past only with a list that was taken on its account, as long as no pass that is due
finds a Job that failed, or takes the list of a Job that was created on another account.
-/

namespace RestoreOperator

open Calls Calls.Prog Relation

/-- **A world in which the snapshot-list Job has a purpose.** -/
structure Triggered where
  world : World
  /-- The due time the Job that is there was created for. -/
  createdFor : Option Timestamp := none
  /-- A Job created for the time that is scheduled now has had its list taken. -/
  consumed : Bool := false

/-- What the schedule of a replica says in a pass. -/
def scheduleDecision (p : ReplicaPass) (w : World) : ScheduleDecision :=
  checkSchedule w.replica.spec w.replica.status p.scheduleNow

/-- The due time on whose account an event creates a Job: a pass may have other reasons to. -/
def dueTime (w : World) : Event → Option Timestamp
  | .replicaPass p =>
    if scheduleDecision p w = .trigger then w.replica.status.nextScheduledRestore else none
  | _ => none

/-- The event is a pass that takes the list. -/
def consumesList (ctx : Context) (w : World) : Event → Bool
  | .replicaPass p => takesList ctx p w
  | _ => false

/-- **One step.** -/
def triggeredStep (ctx : Context) (s : Triggered) (e : Event) : Triggered :=
  let w := step ctx s.world e
  { world := w
    createdFor :=
      match w.job .snapshotList with
      | none => none
      | some job =>
        if (s.world.job .snapshotList).any fun j => j.uid = job.uid then s.createdFor
        else dueTime s.world e
    consumed :=
      w.replica.status.nextScheduledRestore = s.world.replica.status.nextScheduledRestore &&
        (s.consumed || consumesList ctx s.world e &&
          s.createdFor = s.world.replica.status.nextScheduledRestore) }

/-- The next scheduled restore a pass leaves. -/
def scheduledAfter (ctx : Context) (p : ReplicaPass) (w : World) : Option Timestamp :=
  (reconcile ctx p p.replies w).state.replica.status.nextScheduledRestore

/-- **The pass moves the schedule past a due time**, on its decision and not because the schedule itself
    was changed. -/
def movesPast (ctx : Context) (p : ReplicaPass) (w : World) (due : Timestamp) : Bool :=
  !w.replicaDeleted && w.replica.status.nextScheduledRestore = some due &&
    scheduleDecision p w = .trigger && scheduledAfter ctx p w ≠ some due &&
    scheduledAfter ctx p w ≠ recomputedSchedule ctx p w.replica

/-- **A due time is moved past only once a list was taken on its account**: by this pass, from a Job it
    sees Succeeded, or by an earlier one. -/
def ConsumedFirst (ctx : Context) (s : Triggered) : Event → Prop
  | .replicaPass p => ∀ due, movesPast ctx p s.world due = true →
      s.consumed = true ∨
        takesList ctx p s.world = true ∧ s.createdFor = some due ∧
          ∃ job, s.world.job .snapshotList = some job ∧ classifyJob job = .succeeded
  | _ => True

/-- **A due trigger is dropped**: the pass that is due finds a Job that failed, or the list of a Job that
    was created on another account. -/
def dropsTrigger (s : Triggered) : Event → Bool
  | .replicaPass p =>
    comesToTrigger s.world && scheduleDecision p s.world = .trigger && !s.consumed &&
      (s.world.job .snapshotList).any fun job =>
        classifyJob job = .failed ||
          classifyJob job = .succeeded && s.world.snapshotResults.isSome &&
            s.createdFor ≠ s.world.replica.status.nextScheduledRestore
  | _ => false

/-! ## What a pass does to the schedule -/

section Pass

variable {ctx : Context} {p : ReplicaPass} {w : World}

/-- A pass takes the list or leaves it. -/
theorem ReplicaAct.results {a a' : Control} (h : ReplicaAct ctx p w a a') :
    a'.results = none ∨ a'.results = a.results := by
  cases h with
  | snapshotsTaken => exact .inl rfl
  | _ => exact .inr rfl

/-- The list stays taken. -/
theorem ListSettled.of_act {a a' : Control} (h : ListSettled w a) (hact : ReplicaAct ctx p w a a') :
    ListSettled w a' := by
  rcases hact.results with hnone | hsame
  · cases h with
    | idle hjob => exact .idle hjob
    | failed hjob hfailed => exact .failed hjob hfailed
    | taken hjob hsucceeded hwaiting _ => exact .taken hjob hsucceeded hwaiting hnone
  · exact h.of_results hsame

/-- **How a pass may leave the schedule.** -/
inductive ScheduleLeft (ctx : Context) (p : ReplicaPass) (w : World) (a : Control) : Prop where
  | kept (hnext : a.next = w.replica.status.nextScheduledRestore)
  | recomputed (hnext : a.next = recomputedSchedule ctx p w.replica)
  | advanced (htrigger : comesToTrigger w = true)
      (hsettle : (shouldRestore p w.replica w.restores && (w.job .snapshotList).isNone) = false)
      (hlist : ListSettled w a)

theorem ScheduleLeft.of_act {a a' : Control} (h : ScheduleLeft ctx p w a)
    (hact : ReplicaAct ctx p w a a') : ScheduleLeft ctx p w a' := by
  have hkeeps : a'.next = a.next → ScheduleLeft ctx p w a' := by
    intro hnext
    cases h with
    | kept hkept => exact .kept (hnext.trans hkept)
    | recomputed hrecomputed => exact .recomputed (hnext.trans hrecomputed)
    | advanced htrigger hsettle hlist => exact .advanced htrigger hsettle (hlist.of_act hact)
  cases hact with
  | scheduleRecomputed next _ hnext => exact .recomputed hnext.symm
  | scheduleAdvanced next htrigger hsettle _ hlist =>
    exact .advanced htrigger hsettle (hlist.of_results rfl)
  | _ => exact hkeeps rfl

/-- **What a pass leaves of the schedule.** -/
theorem scheduleLeft_reconcile (ctx : Context) (p : ReplicaPass) (w : World) :
    ScheduleLeft ctx p w (control (reconcile ctx p p.replies w).state) := by
  have hreach := (reconcile_moves ctx p w).reaches
  generalize control (reconcile ctx p p.replies w).state = a at hreach
  induction hreach with
  | refl => exact .kept rfl
  | tail _ hact ih => exact ih.of_act hact

/-- **A pass that moves past a due time came to its trigger with a Job**: one that failed, or one whose
    list it took. -/
theorem movesPast_settled {due : Timestamp} (h : movesPast ctx p w due = true) :
    comesToTrigger w = true ∧ ∃ job, w.job .snapshotList = some job ∧
      (classifyJob job = .failed ∨ classifyJob job = .succeeded ∧ takesList ctx p w = true) := by
  simp only [movesPast, Bool.and_eq_true, decide_eq_true_eq, Bool.not_eq_true'] at h
  obtain ⟨⟨⟨⟨hthere, hdue⟩, hdecision⟩, hmoved⟩, hchanged⟩ := h
  have hleft := scheduleLeft_reconcile ctx p w
  cases hleft with
  | kept hnext => exact absurd (hnext.trans hdue) hmoved
  | recomputed hnext => exact absurd hnext hchanged
  | advanced htrigger hsettle hlist =>
    refine ⟨htrigger, ?_⟩
    cases hlist with
    | idle hjob =>
      -- a due pass without a Job would have gone on to create one
      have hshould : shouldRestore p w.replica w.restores = true := by
        have htriggers : (checkSchedule w.replica.spec w.replica.status p.scheduleNow == .trigger) = true :=
          beq_iff_eq.mpr hdecision
        simp only [shouldRestore, htriggers, Bool.or_true]
      rw [hshould, hjob] at hsettle
      cases hsettle
    | failed hjob hfailed => exact ⟨_, hjob, .inl hfailed⟩
    | taken hjob hsucceeded hwaiting htaken =>
      refine ⟨_, hjob, .inr ⟨hsucceeded, ?_⟩⟩
      have hgone : (reconcile ctx p p.replies w).state.snapshotResults = none := htaken
      simp [takesList, hthere, hwaiting, hgone]

/-- **A step moves past a due time with a list taken on its account**, unless it drops a trigger. -/
theorem consumedFirst_of_not_drops {s : Triggered} {e : Event} (hC : dropsTrigger s e = false) :
    ConsumedFirst ctx s e := by
  cases e with
  | replicaPass p =>
    intro due hmoves
    obtain ⟨htrigger, job, hjob, hsettled⟩ := movesPast_settled hmoves
    simp only [movesPast, Bool.and_eq_true, decide_eq_true_eq] at hmoves
    have hdue := hmoves.1.1.1.2
    have hdecision := hmoves.1.1.2
    by_cases hconsumed : s.consumed = true
    · exact .inl hconsumed
    refine .inr ?_
    have hconsumed' : s.consumed = false := Bool.eq_false_iff.mpr hconsumed
    rcases hsettled with hfailed | ⟨hsucceeded, htakes⟩
    · simp [dropsTrigger, htrigger, hdecision, hconsumed', hjob, hfailed] at hC
    · have hwaiting : s.world.snapshotResults.isSome = true := by
        simp only [takesList, Bool.and_eq_true] at htakes
        exact htakes.1.2
      refine ⟨htakes, ?_, job, hjob, hsucceeded⟩
      by_contra hother
      simp [dropsTrigger, htrigger, hdecision, hconsumed', hjob, hsucceeded, hwaiting, hdue, hother] at hC
  | _ => trivial

end Pass

/-! ## Every run -/

/-- **A due time is moved past only once a list was taken on its account**, in every run in which no due
    trigger is dropped. -/
theorem due_time_moved_after_list {ctx : Context} (key : ReplicaKey) (spec : ReplicaSpec)
    {es : List Event} (hes : Meets (triggeredStep ctx) (fun s e => dropsTrigger s e = false)
      { world := World.initial key spec } es) :
    Meets (triggeredStep ctx) (ConsumedFirst ctx) { world := World.initial key spec } es :=
  Meets.of_invariant (I := fun _ => True) (fun _ _ _ _ => trivial)
    (fun _ _ hC _ => consumedFirst_of_not_drops hC) trivial hes

/-- A replica that is restored once lists its snapshots again when the schedule is due, an hour later. -/
def restoredTwice : List Event :=
  listSnapshots 0 "s" ++ bringUp "r-10" 20 ++ [.replicaPass { now := 30 }, .replicaPass { now := 40 }] ++
    listSnapshots 3700 "s2"

theorem restoredTwice_moved_after_list :
    movesPast .hourly { now := 3710 } (run .hourly (World.initial ⟨"ns", "r"⟩ plainSpec)
        restoredTwice.dropLast) 3600 = true ∧
      Meets (triggeredStep .hourly) (ConsumedFirst .hourly)
        { world := World.initial ⟨"ns", "r"⟩ plainSpec } restoredTwice :=
  ⟨by decide +kernel, due_time_moved_after_list ⟨"ns", "r"⟩ plainSpec (by decide +kernel)⟩

/-- The Job of the first restore fails, and is still there when the schedule is due. -/
def listFailed : List Event :=
  [.replicaPass { now := 0 }, .jobReported .snapshotList { failed := some 3 }, .replicaPass { now := 10 }]

/-- **A due trigger is dropped because a Job that failed still exists**: nothing was listed, and the
    schedule moves on by an hour. -/
theorem failed_list_drops_trigger :
    ¬ Meets (triggeredStep .hourly) (ConsumedFirst .hourly)
        { world := World.initial ⟨"ns", "r"⟩ plainSpec }
        (listFailed ++ [.replicaPass { now := 3700 }]) ∧
      scheduledAfter .hourly { now := 3700 }
        (run .hourly (World.initial ⟨"ns", "r"⟩ plainSpec) listFailed) = some 7300 := by
  refine ⟨?_, by decide +kernel⟩
  intro h
  have hlast := (meets_append.mp h).2.1
  rcases hlast 3600 (by decide +kernel) with hconsumed | ⟨htakes, _⟩
  · have hnot : (runFrom (triggeredStep .hourly) { world := World.initial ⟨"ns", "r"⟩ plainSpec }
        listFailed).consumed = false := by decide +kernel
    rw [hnot] at hconsumed
    cases hconsumed
  · have hnot : takesList .hourly { now := 3700 } (runFrom (triggeredStep .hourly)
        { world := World.initial ⟨"ns", "r"⟩ plainSpec } listFailed).world = false := by decide +kernel
    rw [hnot] at htakes
    cases htakes

end RestoreOperator

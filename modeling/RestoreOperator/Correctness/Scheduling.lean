import RestoreOperator.Base.Ticks
import RestoreOperator.Replica.Trigger
import RestoreOperator.System.Events

/-!
# `Correctness.Scheduling` — what the schedule of a replica promises

The next scheduled restore is the next tick of a cron expression, moved by a sample of the jitter; the pass
that acts on it computes the one after from the time it is then.  Two passes may then act on one tick: a
sample that moves a restore ahead of its tick leaves that tick to be the next one.

The budget of a schema migration is derived from the same expression, which is read another way there, and
the TTL that keeps restores apart is looked at by some of the triggers only.
-/

namespace RestoreOperator

open Calls Ticks

/-- **The expression is accepted**, and fires at these ticks. -/
def FiresAt (ctx : Context) (hashed : Bool) (schedule : String) (ticks : Set Timestamp) : Prop :=
  ∀ t u, ctx.findNext hashed schedule t = some u ↔ IsNext ticks t u

/-! ## A tick and its triggers -/

/-- How far the jitter moves a restore to either side: not at all, if it does not come to seconds. -/
def TimeSpan.jitterReach (jitter : TimeSpan) : ℚ := (max (jitter.totalSeconds.getD 0) 0 : Int) / 2

/-- **A sample of the jitter**, in seconds. -/
def TimeSpan.Samples (jitter : TimeSpan) (sample : ℚ) : Prop :=
  if 0 < jitter.jitterReach then -jitter.jitterReach ≤ sample ∧ sample < jitter.jitterReach
  else sample = 0

instance (jitter : TimeSpan) (sample : ℚ) : Decidable (jitter.Samples sample) :=
  inferInstanceAs (Decidable (if 0 < jitter.jitterReach then
    -jitter.jitterReach ≤ sample ∧ sample < jitter.jitterReach else sample = 0))

/-- **A pass that consults the schedule.** -/
structure SchedulePass (jitter : TimeSpan) where
  /-- The seconds since the pass before. -/
  elapsed : Nat
  /-- When the last restore completed, as the status has it by then. -/
  completed : Option Timestamp := none
  /-- The sample that moves the next scheduled restore, if one is computed. -/
  sample : ℚ
  sample_mem : jitter.Samples sample := by decide +kernel

/-- **A replica and the ticks its triggers came from.** -/
structure TickLog where
  status : ReplicaStatus
  clock : Timestamp
  /-- The tick the next scheduled restore was computed from. -/
  base : Option Timestamp := none
  /-- The ticks of the scheduled triggers so far, the last first. -/
  triggered : List Timestamp := []

section Triggers

variable (ctx : Context) (replica : Replica)

/-- The time of a pass. -/
def TickLog.timeOf (s : TickLog) (e : SchedulePass replica.spec.scheduleJitter) : Timestamp :=
  s.clock + e.elapsed

/-- The replica a pass finds. -/
def TickLog.found (s : TickLog) (e : SchedulePass replica.spec.scheduleJitter) : Replica :=
  { replica with status := { s.status with lastRestoreCompletedAt := e.completed } }

/-- What the schedule says to a pass. -/
def TickLog.decision (s : TickLog) (e : SchedulePass replica.spec.scheduleJitter) :
    ScheduleDecision :=
  checkSchedule replica.spec (s.found replica e).status (s.timeOf replica e)

/-- The next scheduled restore a pass computes, in whole seconds as the status keeps it. -/
def TickLog.advanced (s : TickLog) (e : SchedulePass replica.spec.scheduleJitter) :
    Option Timestamp :=
  advancedSchedule ctx { now := s.timeOf replica e, advanceJitter := Rat.floor e.sample }
    (s.found replica e)

/-- **One pass**: it logs the tick it acts on, and computes the next. -/
def tickStep (s : TickLog) (e : SchedulePass replica.spec.scheduleJitter) : TickLog :=
  { status :=
      match s.advanced ctx replica e with
      | none => (s.found replica e).status
      | some next => { (s.found replica e).status with nextScheduledRestore := some next }
    clock := s.timeOf replica e
    base :=
      match s.advanced ctx replica e with
      | none => s.base
      | some _ => ctx.findNext true replica.spec.schedule (s.timeOf replica e)
    triggered :=
      if s.decision replica e = .trigger then s.base.toList ++ s.triggered else s.triggered }

/-- **The pass comes in time**: if it acts on a tick, the tick is not still to come, and there is another
    after it. -/
def ComesInTime (s : TickLog) (e : SchedulePass replica.spec.scheduleJitter) : Prop :=
  s.decision replica e = .trigger →
    (∀ tick ∈ s.base, tick ≤ s.timeOf replica e) ∧
      (ctx.findNext true replica.spec.schedule (s.timeOf replica e)).isSome

instance (s : TickLog) (e : SchedulePass replica.spec.scheduleJitter) :
    Decidable (ComesInTime ctx replica s e) :=
  inferInstanceAs (Decidable (s.decision replica e = .trigger →
    (∀ tick ∈ s.base, tick ≤ s.timeOf replica e) ∧
      (ctx.findNext true replica.spec.schedule (s.timeOf replica e)).isSome))

/-- Each tick was acted on once, none of them is still to come, and none is to be acted on again. -/
structure TicksOnce (s : TickLog) : Prop where
  nodup : s.triggered.Nodup
  past : ∀ tick ∈ s.triggered, tick ≤ s.clock
  fresh : ∀ tick ∈ s.triggered, ∀ next ∈ s.base, tick < next

variable {ctx replica}

theorem clock_le_timeOf (s : TickLog) (e : SchedulePass replica.spec.scheduleJitter) :
    s.clock ≤ s.timeOf replica e :=
  le_add_of_nonneg_right (Int.natCast_nonneg e.elapsed)

/-- The next scheduled restore is computed when the schedule is due. -/
theorem advancedSchedule_eq (ctx : Context) (p : ReplicaPass) (replica : Replica) :
    advancedSchedule ctx p replica =
      if checkSchedule replica.spec replica.status p.scheduleNow = .notDue then none
      else computeNextScheduledRestore ctx replica.spec p.advanceJitter p.now := by
  unfold advancedSchedule
  cases checkSchedule replica.spec replica.status p.scheduleNow <;> rfl

/-- The base moves to the next tick, if there is one, when the schedule is due. -/
theorem tickStep_base (ctx : Context) (s : TickLog) (e : SchedulePass replica.spec.scheduleJitter) :
    (tickStep ctx replica s e).base =
      if s.decision replica e = .notDue then s.base
      else (ctx.findNext true replica.spec.schedule (s.timeOf replica e)).or s.base := by
  have hadvanced : s.advanced ctx replica e =
      if s.decision replica e = .notDue then none
      else (ctx.findNext true replica.spec.schedule (s.timeOf replica e)).map
        (· + Rat.floor e.sample) := advancedSchedule_eq ctx _ _
  show (match s.advanced ctx replica e with
    | none => s.base
    | some _ => ctx.findNext true replica.spec.schedule (s.timeOf replica e)) = _
  rw [hadvanced]
  by_cases hdue : s.decision replica e = .notDue
  · rw [if_pos hdue, if_pos hdue]
  · rw [if_neg hdue, if_neg hdue]
    cases ctx.findNext true replica.spec.schedule (s.timeOf replica e) with
    | none => rfl
    | some next => rfl

/-- A pass that acts on no tick leaves all in order, if what is next is still ahead of the log. -/
theorem TicksOnce.of_same_log {s s' : TickLog} (h : TicksOnce s) (hlog : s'.triggered = s.triggered)
    (hclock : s.clock ≤ s'.clock) (hfresh : ∀ tick ∈ s.triggered, ∀ next ∈ s'.base, tick < next) :
    TicksOnce s' := by
  refine ⟨?_, ?_, ?_⟩
  · rw [hlog]
    exact h.nodup
  · rw [hlog]
    intro tick htick
    exact le_trans (h.past tick htick) hclock
  · rw [hlog]
    exact hfresh

/-- A pass that acts on a tick leaves all in order, if the tick is past and what is next is still to
    come. -/
theorem TicksOnce.of_logged {s s' : TickLog} (h : TicksOnce s)
    (hlog : s'.triggered = s.base.toList ++ s.triggered) (hclock : s.clock ≤ s'.clock)
    (hcome : ∀ tick ∈ s.base, tick ≤ s'.clock) (hnext : ∀ next ∈ s'.base, s'.clock < next) :
    TicksOnce s' := by
  have hpast : ∀ tick ∈ s'.triggered, tick ≤ s'.clock := by
    intro tick htick
    rw [hlog] at htick
    rcases List.mem_append.mp htick with htick | htick
    · exact hcome tick (Option.mem_toList.mp htick)
    · exact le_trans (h.past tick htick) hclock
  refine ⟨?_, hpast, ?_⟩
  · rw [hlog]
    cases hb : s.base with
    | none => exact h.nodup
    | some b =>
      refine List.nodup_cons.mpr ⟨?_, h.nodup⟩
      intro hmem
      exact absurd (h.fresh b hmem b hb) (lt_irrefl b)
  · intro tick htick next hnext'
    exact lt_of_le_of_lt (hpast tick htick) (hnext next hnext')

/-- What was acted on lies before the tick that comes next. -/
theorem TicksOnce.before_next {ticks : Set Timestamp}
    (hcron : FiresAt ctx true replica.spec.schedule ticks) {s : TickLog} (h : TicksOnce s)
    (e : SchedulePass replica.spec.scheduleJitter) {next : Timestamp}
    (hnext : ctx.findNext true replica.spec.schedule (s.timeOf replica e) = some next) :
    ∀ tick ∈ s.triggered, tick < next := by
  intro tick htick
  calc tick ≤ s.clock := h.past tick htick
    _ ≤ s.timeOf replica e := clock_le_timeOf s e
    _ < next := ((hcron _ _).mp hnext).lt

/-- **A pass that comes in time acts on no tick again.** -/
theorem tickStep_ticksOnce {ticks : Set Timestamp}
    (hcron : FiresAt ctx true replica.spec.schedule ticks) (s : TickLog)
    (e : SchedulePass replica.spec.scheduleJitter) (htime : ComesInTime ctx replica s e)
    (h : TicksOnce s) : TicksOnce (tickStep ctx replica s e) := by
  have hbase := tickStep_base ctx s e
  have hlog : (tickStep ctx replica s e).triggered =
      if s.decision replica e = .trigger then s.base.toList ++ s.triggered else s.triggered := rfl
  cases hdecision : s.decision replica e with
  | notDue =>
    rw [hdecision, if_pos rfl] at hbase
    rw [hdecision, if_neg (by simp)] at hlog
    refine h.of_same_log hlog (clock_le_timeOf s e) ?_
    rw [hbase]
    exact h.fresh
  | skippedByTtl =>
    rw [hdecision, if_neg (by simp)] at hbase
    rw [hdecision, if_neg (by simp)] at hlog
    refine h.of_same_log hlog (clock_le_timeOf s e) ?_
    rw [hbase]
    cases hnext : ctx.findNext true replica.spec.schedule (s.timeOf replica e) with
    | none => exact h.fresh
    | some next =>
      intro tick htick u hu
      cases hu
      exact h.before_next hcron e hnext tick htick
  | trigger =>
    obtain ⟨hcome, hsome⟩ := htime hdecision
    obtain ⟨next, hnext⟩ := Option.isSome_iff_exists.mp hsome
    rw [hdecision, if_neg (by simp), hnext] at hbase
    rw [hdecision, if_pos rfl] at hlog
    refine h.of_logged hlog (clock_le_timeOf s e) hcome ?_
    rw [hbase]
    intro u hu
    cases hu
    exact ((hcron _ _).mp hnext).lt

/-- **No tick is acted on twice in a run whose passes come in time.** -/
theorem ticks_trigger_once {ticks : Set Timestamp}
    (hcron : FiresAt ctx true replica.spec.schedule ticks) {s : TickLog} (hstart : s.triggered = [])
    {es : List (SchedulePass replica.spec.scheduleJitter)}
    (hes : Meets (tickStep ctx replica) (ComesInTime ctx replica) s es) :
    Always (tickStep ctx replica) (fun s => s.triggered.Nodup) s es := by
  have hfirst : TicksOnce s := by
    refine ⟨?_, ?_, ?_⟩ <;> rw [hstart]
    · exact List.nodup_nil
    · exact fun _ h => absurd h List.not_mem_nil
    · exact fun _ h => absurd h List.not_mem_nil
  exact Always.of_invariant (fun s e htime h => tickStep_ticksOnce hcron s e htime h)
    (fun s h => h.nodup) hfirst hes

/-- **A tick acted on ahead of its time is acted on again** by the next pass that the schedule triggers. -/
theorem early_trigger_repeats {ticks : Set Timestamp}
    (hcron : FiresAt ctx true replica.spec.schedule ticks) {s : TickLog} {tick t : Timestamp}
    (hbase : s.base = some tick) (hnext : IsNext ticks t tick) (ht : t ≤ s.clock)
    {e e' : SchedulePass replica.spec.scheduleJitter} (htrigger : s.decision replica e = .trigger)
    (hearly : s.timeOf replica e < tick)
    (hagain : (tickStep ctx replica s e).decision replica e' = .trigger) :
    ¬ (tickStep ctx replica (tickStep ctx replica s e) e').triggered.Nodup := by
  have hstill : IsNext ticks (s.timeOf replica e) tick :=
    hnext.until (le_trans ht (clock_le_timeOf s e)) hearly
  have hbase' : (tickStep ctx replica s e).base = some tick := by
    rw [tickStep_base, htrigger, if_neg (by simp), (hcron _ _).mpr hstill]
    rfl
  have hlog : (tickStep ctx replica s e).triggered = tick :: s.triggered := by
    show (if s.decision replica e = .trigger then s.base.toList ++ s.triggered else _) = _
    rw [if_pos htrigger, hbase]
    rfl
  have hlog' : (tickStep ctx replica (tickStep ctx replica s e) e').triggered =
      tick :: tick :: s.triggered := by
    show (if (tickStep ctx replica s e).decision replica e' = .trigger then
      (tickStep ctx replica s e).base.toList ++ (tickStep ctx replica s e).triggered else _) = _
    rw [if_pos hagain, hbase', hlog]
    rfl
  rw [hlog']
  simp

end Triggers

/-! ### An hourly schedule -/

/-- A context whose expressions fire on the hour. -/
def Context.onTheHour : Context :=
  { Context.hourly with findNext := fun _ _ t => some ((t / 3600 + 1) * 3600) }

theorem onTheHour_firesAt (hashed : Bool) (schedule : String) :
    FiresAt .onTheHour hashed schedule {u | 3600 ∣ u} := by
  have hnext : ∀ t : Int, IsNext {u | 3600 ∣ u} t ((t / 3600 + 1) * 3600) := by
    intro t
    refine ⟨⟨Dvd.intro_left _ rfl, ?_⟩, ?_⟩
    · show t < (t / 3600 + 1) * 3600
      omega
    · rintro v ⟨⟨k, rfl⟩, hlt⟩
      have hlt' : t < 3600 * k := hlt
      show (t / 3600 + 1) * 3600 ≤ 3600 * k
      omega
  intro t u
  show some ((t / 3600 + 1) * 3600) = some u ↔ _
  constructor
  · intro h
    cases h
    exact hnext t
  · intro h
    rw [(hnext t).unique h]

/-- A replica that restores every hour, with a jitter of ten minutes. -/
def hourlyReplica : Replica :=
  { name := "r", spec := { kopiaSecretRef := some "kopia", schedule := "0 * * * *" } }

/-- Before its first restore is scheduled. -/
def unscheduled : TickLog := { status := {}, clock := 0 }

/-- The first restore after 01:00 is moved to 01:01, and the one after to 01:59. -/
def lateThenEarly : List (SchedulePass hourlyReplica.spec.scheduleJitter) :=
  [{ elapsed := 10, sample := 60 }, { elapsed := 3650, sample := -60 },
    { elapsed := 3600, sample := 0 }]

theorem lateThenEarly_trigger_once :
    Always (tickStep .onTheHour hourlyReplica) (fun s => s.triggered.Nodup) unscheduled
      lateThenEarly :=
  ticks_trigger_once (onTheHour_firesAt true _) rfl (by decide)

/-- The restore of 01:00 is moved to 00:56:40, and then to 00:59:10. -/
def twiceEarly : List (SchedulePass hourlyReplica.spec.scheduleJitter) :=
  [{ elapsed := 10, sample := -200 }, { elapsed := 3390, sample := -50 },
    { elapsed := 150, sample := 0 }]

theorem one_tick_triggers_twice :
    FiresAt .onTheHour true hourlyReplica.spec.schedule {u | 3600 ∣ u} ∧
      ¬ Always (tickStep .onTheHour hourlyReplica) (fun s => s.triggered.Nodup) unscheduled
        twiceEarly := by
  refine ⟨onTheHour_firesAt true _, ?_⟩
  intro h
  exact absurd h.last (by decide)

/-! ## The TTL -/

section Ttl

variable {p : ReplicaPass} {replica : Replica} {restores : List Restore}

/-- Inside the TTL a restore has succeeded. -/
theorem noSuccessfulRestore_of_withinTtl {spec : ReplicaSpec} {status : ReplicaStatus}
    {now : Timestamp} (h : withinMinimumTtl spec status now = true) :
    noSuccessfulRestore status = false := by
  unfold withinMinimumTtl at h
  unfold noSuccessfulRestore
  cases hlast : status.lastRestoreCompletedAt with
  | none =>
    rw [hlast] at h
    cases httl : spec.minimumTtl <;> simp [httl] at h
  | some last => rfl

/-- Inside the TTL the schedule triggers only if nothing is scheduled. -/
theorem checkSchedule_of_withinTtl {spec : ReplicaSpec} {status : ReplicaStatus} {now : Timestamp}
    (h : withinMinimumTtl spec status now = true) :
    checkSchedule spec status now = .trigger ↔ status.nextScheduledRestore = none := by
  unfold checkSchedule
  cases hnext : status.nextScheduledRestore with
  | none => simp
  | some next =>
    by_cases hdue : now < next
    · simp [hdue]
    · simp [hdue, h]

/-- **What still triggers inside the TTL**: a deleted restore, and a schedule with nothing scheduled. -/
theorem shouldRestore_of_withinTtl
    (hnow : withinMinimumTtl replica.spec replica.status p.now = true)
    (hschedule : withinMinimumTtl replica.spec replica.status p.scheduleNow = true) :
    shouldRestore p replica restores = true ↔
      activeRestoreDeleted replica.status restores = true ∨
        replica.status.nextScheduledRestore = none := by
  have hnever : neverRestored replica.status restores p.now = false := by
    unfold neverRestored
    rw [noSuccessfulRestore_of_withinTtl hnow]
    simp
  have hcanopy : canopyDesiredChanged replica restores p.now = false := by
    unfold canopyDesiredChanged
    rw [hnow]
    simp
  unfold shouldRestore
  rw [hnever, hcanopy, Bool.false_or, Bool.or_false, Bool.or_eq_true, beq_iff_eq,
    checkSchedule_of_withinTtl hschedule]

/-- The restore the status names was deleted, and no other has taken its place. -/
def RestoreDeleted (replica : Replica) (restores : List Restore) : Prop :=
  activeRestore restores = none ∧ inProgressRestore restores = none ∧
    replica.status.currentRestore.isSome = true

/-- **The pass respects the TTL**: it starts a restore only in place of a deleted one. -/
def RespectsTtl (p : ReplicaPass) (replica : Replica) (restores : List Restore) : Prop :=
  shouldRestore p replica restores = true → RestoreDeleted replica restores

/-- **Inside the TTL a pass respects it exactly when a next restore is scheduled, or the restore was
    deleted.** -/
theorem ttl_respected_iff
    (hnow : withinMinimumTtl replica.spec replica.status p.now = true)
    (hschedule : withinMinimumTtl replica.spec replica.status p.scheduleNow = true) :
    RespectsTtl p replica restores ↔
      replica.status.nextScheduledRestore ≠ none ∨ RestoreDeleted replica restores := by
  have hdeleted : activeRestoreDeleted replica.status restores = true ↔
      RestoreDeleted replica restores := by
    unfold activeRestoreDeleted RestoreDeleted
    rw [Bool.and_eq_true, Bool.and_eq_true, Option.isNone_iff_eq_none, Option.isNone_iff_eq_none,
      and_assoc]
  unfold RespectsTtl
  rw [shouldRestore_of_withinTtl hnow hschedule, hdeleted]
  by_cases hnone : replica.status.nextScheduledRestore = none
  · simp [hnone]
  · simp [hnone]

end Ttl

/-- A replica that restored a minute ago, is to restore at most daily, and has an active restore. -/
def ttlReplica (next : Option Timestamp) : Replica :=
  { name := "r"
    spec := { plainSpec with minimumTtl := some { secs := 86400 } }
    status :=
      { currentRestore := some "r-1"
        lastRestoreCompletedAt := some 940
        nextScheduledRestore := next } }

def servingRestores : List Restore := [plainRestore 0 "r-1" "s" { phase := some .active }]

theorem ttl_respected_when_scheduled :
    RespectsTtl { now := 1000 } (ttlReplica (some 960)) servingRestores :=
  (ttl_respected_iff (by decide) (by decide)).mpr (Or.inl (by decide))

/-- **With nothing scheduled the replica restores again**, a minute after its last restore. -/
theorem unscheduled_ignores_ttl :
    withinMinimumTtl (ttlReplica none).spec (ttlReplica none).status 1000 = true ∧
      ¬ RespectsTtl { now := 1000 } (ttlReplica none) servingRestores := by
  unfold RespectsTtl RestoreDeleted
  decide

/-! ## The budget of a migration -/

section Budget

variable {ctx : Context} {spec : ReplicaSpec} {ticks : Set Int} {now first second : Int}

/-- The expression is not accepted as it stands, without a value for `H`. -/
def Rejects (ctx : Context) (schedule : String) : Prop := ∀ t, ctx.findNext false schedule t = none

/-- The interval is that between the next two ticks. -/
theorem cronInterval_eq (hplain : FiresAt ctx false spec.schedule ticks)
    (hminutes : ∀ t ∈ ticks, ∀ u ∈ ticks, t < u → t + 60 ≤ u) (hfirst : IsNext ticks now first)
    (hsecond : IsNext ticks first second) :
    cronInterval ctx spec now = some (second - first) := by
  have hgap := hminutes first hfirst.mem second hsecond.mem hsecond.lt
  have hafter : IsNext ticks (first + 1) second :=
    hsecond.until (by omega) (by omega)
  unfold cronInterval
  rw [(hplain now first).mpr hfirst]
  show (ctx.findNext false spec.schedule (first + 1) >>= _) = _
  rw [(hplain (first + 1) second).mpr hafter]
  rfl

/-- Without jitter the next scheduled restore is the next tick. -/
theorem isNext_of_computeNext (hcron : FiresAt ctx true spec.schedule ticks) {t u : Int}
    (h : computeNextScheduledRestore ctx spec 0 t = some u) : IsNext ticks t u := by
  unfold computeNextScheduledRestore at h
  cases hnext : ctx.findNext true spec.schedule t with
  | none =>
    rw [hnext] at h
    cases h
  | some v =>
    rw [hnext] at h
    cases h
    show IsNext ticks t (v + 0)
    rw [Int.add_zero]
    exact (hcron t v).mp hnext

/-- **The budget is a fifth of the time between the next two restores, exactly when the expression is
    accepted without a value for `H`** or the fifth is an hour anyway. -/
theorem migration_budget_iff (hcron : FiresAt ctx true spec.schedule ticks)
    (hplain : FiresAt ctx false spec.schedule ticks ∨ Rejects ctx spec.schedule)
    (hminutes : ∀ t ∈ ticks, ∀ u ∈ ticks, t < u → t + 60 ≤ u)
    (hfirst : computeNextScheduledRestore ctx spec 0 now = some first)
    (hsecond : computeNextScheduledRestore ctx spec 0 first = some second) :
    schemaMigrationTimeout ctx spec now = (second - first) / 5 ↔
      FiresAt ctx false spec.schedule ticks ∨ (second - first) / 5 = 3600 := by
  have hnext := isNext_of_computeNext hcron hfirst
  have hafter := isNext_of_computeNext hcron hsecond
  rcases hplain with hplain | hrejects
  · have hlt := hafter.lt
    have hbudget : schemaMigrationTimeout ctx spec now = (second - first) / 5 := by
      unfold schemaMigrationTimeout
      rw [cronInterval_eq hplain hminutes hnext hafter]
      exact Int.tdiv_eq_ediv_of_nonneg (by omega)
    exact iff_of_true hbudget (Or.inl hplain)
  · have hbudget : schemaMigrationTimeout ctx spec now = 3600 := by
      unfold schemaMigrationTimeout cronInterval
      rw [hrejects now]
      rfl
    have hnot : ¬ FiresAt ctx false spec.schedule ticks := by
      intro hfires
      have hsome := (hfires now first).mpr hnext
      rw [hrejects now] at hsome
      cases hsome
    rw [hbudget]
    constructor
    · intro h
      exact Or.inr h.symm
    · rintro (hfires | hhour)
      · exact absurd hfires hnot
      · exact hhour.symm

end Budget

/-- A context whose expressions fire on the hour, and that accepts no `H` without a value for it. -/
def Context.hashOnTheHour : Context :=
  { Context.onTheHour with
    findNext := fun hashed schedule t =>
      if hashed || !schedule.toList.contains 'H' then some ((t / 3600 + 1) * 3600) else none }

theorem hashOnTheHour_firesAt {hashed : Bool} {schedule : String}
    (h : (hashed || !schedule.toList.contains 'H') = true) :
    FiresAt .hashOnTheHour hashed schedule {u | 3600 ∣ u} := by
  intro t u
  show (if _ then _ else _) = some u ↔ _
  rw [if_pos h]
  exact onTheHour_firesAt hashed schedule t u

theorem hours_apart : ∀ t ∈ {u : Int | 3600 ∣ u}, ∀ u ∈ {u : Int | 3600 ∣ u}, t < u → t + 60 ≤ u := by
  rintro t ⟨k, rfl⟩ u ⟨l, rfl⟩ hlt
  omega

theorem hourly_budget :
    schemaMigrationTimeout .hashOnTheHour { plainSpec with schedule := "0 * * * *" } 0 = 720 := by
  have hplain : FiresAt .hashOnTheHour false "0 * * * *" {u | 3600 ∣ u} :=
    hashOnTheHour_firesAt (by decide)
  have hfirst : computeNextScheduledRestore .hashOnTheHour
      { plainSpec with schedule := "0 * * * *" } 0 0 = some 3600 := by decide
  have hsecond : computeNextScheduledRestore .hashOnTheHour
      { plainSpec with schedule := "0 * * * *" } 0 3600 = some 7200 := by decide
  exact (migration_budget_iff (hashOnTheHour_firesAt (by decide)) (Or.inl hplain) hours_apart hfirst
    hsecond).mpr (Or.inl hplain)

/-- **An hourly schedule with an `H` gets an hour** and not twelve minutes. -/
theorem hashed_schedule_gets_hour :
    FiresAt .hashOnTheHour true "H * * * *" {u | 3600 ∣ u} ∧
      computeNextScheduledRestore .hashOnTheHour { plainSpec with schedule := "H * * * *" } 0 0 =
        some 3600 ∧
      computeNextScheduledRestore .hashOnTheHour { plainSpec with schedule := "H * * * *" } 0 3600 =
        some 7200 ∧
      schemaMigrationTimeout .hashOnTheHour { plainSpec with schedule := "H * * * *" } 0 ≠
        (7200 - 3600) / 5 :=
  ⟨hashOnTheHour_firesAt (by decide), by decide, by decide, by decide⟩

end RestoreOperator

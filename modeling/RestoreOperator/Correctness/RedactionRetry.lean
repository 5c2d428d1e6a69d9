import RestoreOperator.Calls.Along
import RestoreOperator.System.Events

/-!
# `Correctness.RedactionRetry` — a redaction that has to be tried again

A redaction that fails is tried again on the next pass, from its first statement on.  Its statements need
a superuser and a database that can be written to, and its last ones take both away: the database is
made read-only, then the role is demoted, and only then is the result recorded.  A pass that gets past the
first of these and does not get its result recorded leaves a redaction that is not done and cannot be done
any more.
-/

namespace RestoreOperator

open Calls Calls.Prog

variable {r : Restore} {w : World} {p : ReplicaPass}

/-- The redaction is recorded as done, whether completely or in part. -/
def redactionDone (w : World) : Bool :=
  w.replica.status.redactionPhase.any RedactionPhase.isDone

/-- The statements of a redaction can be run: its role is a superuser, and sessions can write. -/
def canRedact (name : String) (w : World) : Bool :=
  (w.databases name).superuser && !(w.databases name).databaseReadOnly &&
    !(w.databases name).serverReadOnly

/-- **A redaction that is not done can be tried again.** -/
def Retryable (r : Restore) (w : World) : Prop :=
  redactionDone w = false → canRedact r.name w = true

/-- **A pass of the redaction gate**, by an operator that may not survive it. -/
def redactionPass (r : Restore) (w : World) (p : ReplicaPass) : World :=
  World.after (reconcileRedactionStep p w.replica r p.replies w)

/-- The pass comes to its statements: the phase is Active, and the spec is one that can be run. -/
def startsRedaction (p : ReplicaPass) (w : World) : Bool :=
  (w.replica.status.redactionPhase == some .active || (p.replies .redactionPatchActive).isOk) &&
    w.replica.spec.redaction.any fun spec => (validateSpec spec).isOk

/-- Every call up to and including the manifest's statements succeeds. -/
def appliesManifest (ρ : Call → Reply Error) (spec : RedactionSpec) : Bool :=
  (ρ .redactionCredentials).isOk && (ρ .redactionDiscover).isOk && (ρ .redactionConnect).isOk &&
    (spec.version.isSome || spec.versionQuery.isNone || (ρ .redactionVersion).isOk) &&
    (ρ .redactionManifest).isOk && (ρ .redactionApply).isOk

/-- The statements that lock the database all succeed, and the result is recorded. -/
def locksAndSettles (ρ : Call → Reply Error) : Bool :=
  (ρ .redactionAlterDatabase).isOk && (ρ .redactionGrant).isOk && (ρ .redactionDemote).isOk &&
    (ρ .redactionPatchSettled).tookEffect

/-- **The pass locks the database and does not settle**: it redacts, makes the database read-only, and
    fails at one of the calls after that. -/
def locksUnsettled (w : World) (p : ReplicaPass) : Bool :=
  !redactionDone w && startsRedaction p w &&
    w.replica.spec.redaction.any (appliesManifest p.replies) &&
    shouldEnforceReadOnly w.replica.spec && (p.replies .redactionAlterDatabase).tookEffect &&
    !locksAndSettles p.replies

/-! ## The statements -/

theorem touch_of_ok {c : Call} {ρ : Call → Reply Error} (h : (ρ c).isOk = true) :
    Op.touch c ρ w = .done () w :=
  call_of_ok h

theorem touch_stops {c : Call} {ρ : Call → Reply Error} (h : (ρ c).isOk = false) :
    Stops (Op.touch c) ρ w w := by
  have hstops := Stops.call (f := id) (s := w) h
  rw [id, ite_self] at hstops
  exact hstops

theorem resolveVersion_done {spec : RedactionSpec} {ρ : Call → Reply Error}
    (h : (spec.version.isSome || spec.versionQuery.isNone || (ρ .redactionVersion).isOk) = true) :
    ∃ version, resolveVersion p spec ρ w = .done version w := by
  unfold resolveVersion
  cases hversion : spec.version with
  | some v => exact ⟨some v, rfl⟩
  | none =>
    cases hquery : spec.versionQuery with
    | none => exact ⟨none, rfl⟩
    | some q =>
      rw [hversion, hquery] at h
      exact ⟨p.redactionVersion, read_of_ok h⟩

theorem resolveVersion_stops {spec : RedactionSpec} {ρ : Call → Reply Error}
    (h : (spec.version.isSome || spec.versionQuery.isNone || (ρ .redactionVersion).isOk) = false) :
    Stops (resolveVersion p spec) ρ w w := by
  simp only [Bool.or_eq_false_iff, Option.isSome_eq_false_iff, Option.isNone_iff_eq_none,
    Option.isNone_eq_false_iff] at h
  obtain ⟨⟨hversion, hquery⟩, hreply⟩ := h
  obtain ⟨q, hq⟩ := Option.isSome_iff_exists.mp hquery
  unfold resolveVersion
  rw [hversion, hq]
  exact Stops.read hreply

/-- The manifest is not applied: the redaction stops, and has changed nothing. -/
theorem runRedaction_stops {replica : Replica} {spec : RedactionSpec} {name : String}
    {ρ : Call → Reply Error} (h : appliesManifest ρ spec = false) :
    Stops (runRedaction p replica spec name) ρ w w := by
  unfold runRedaction
  cases hcredentials : (ρ .redactionCredentials).isOk with
  | false => exact (touch_stops hcredentials).bind
  | true =>
  apply Stops.after (touch_of_ok hcredentials)
  cases hdiscover : (ρ .redactionDiscover).isOk with
  | false => exact (touch_stops hdiscover).bind
  | true =>
  apply Stops.after (touch_of_ok hdiscover)
  cases hconnect : (ρ .redactionConnect).isOk with
  | false => exact (touch_stops hconnect).bind
  | true =>
  apply Stops.after (touch_of_ok hconnect)
  cases hresolve : (spec.version.isSome || spec.versionQuery.isNone || (ρ .redactionVersion).isOk) with
  | false => exact (resolveVersion_stops hresolve).bind
  | true =>
  obtain ⟨version, hversion⟩ := resolveVersion_done (p := p) (w := w) hresolve
  apply Stops.after hversion
  cases hmanifest : (ρ .redactionManifest).isOk with
  | false => exact (touch_stops hmanifest).bind
  | true =>
  apply Stops.after (touch_of_ok hmanifest)
  cases happly : (ρ .redactionApply).isOk with
  | false => exact (Stops.read happly).bind
  | true =>
    simp [appliesManifest, hcredentials, hdiscover, hconnect, hresolve, hmanifest, happly] at h

/-- The manifest is applied: what is left is to lock the database. -/
theorem runRedaction_applied {replica : Replica} {spec : RedactionSpec} {name : String}
    {ρ : Call → Reply Error} (h : appliesManifest ρ spec = true) :
    ∃ version, runRedaction p replica spec name ρ w =
      (Prog.when (shouldEnforceReadOnly replica.spec) (enforceReadOnly name) >>= fun _ =>
        pure (version, p.redactionOutcome)) ρ w := by
  simp only [appliesManifest, Bool.and_eq_true] at h
  obtain ⟨⟨⟨⟨⟨hcredentials, hdiscover⟩, hconnect⟩, hresolve⟩, hmanifest⟩, happly⟩ := h
  obtain ⟨version, hversion⟩ := resolveVersion_done (p := p) (w := w) hresolve
  refine ⟨version, ?_⟩
  unfold runRedaction
  rw [bind_of_done (touch_of_ok hcredentials), bind_of_done (touch_of_ok hdiscover),
    bind_of_done (touch_of_ok hconnect), bind_of_done hversion, bind_of_done (touch_of_ok hmanifest),
    bind_of_done (ask_of_ok happly)]

/-! ## The lock -/

/-- The lock is in place, and the replica as it was. -/
structure Locked (name : String) (w w' : World) : Prop where
  replica : w'.replica = w.replica
  readOnly : (w'.databases name).databaseReadOnly = true

/-- Once the database is read-only, the other two statements leave it so. -/
theorem Locked.patch {name : String} {w' : World} (h : Locked name w w') {f : Database → Database}
    (hf : ∀ d, (f d).databaseReadOnly = d.databaseReadOnly) :
    Locked name w (w'.patchDatabase name f) where
  replica := h.replica
  readOnly := by
    show (if name = name then f (w'.databases name) else _).databaseReadOnly = true
    rw [if_pos rfl, hf]
    exact h.readOnly

theorem locked_alter (name : String) (w : World) :
    Locked name w (w.patchDatabase name fun d => { d with databaseReadOnly := true }) where
  replica := rfl
  readOnly := by simp [World.patchDatabase]

theorem enforceReadOnly_untouched {name : String} {ρ : Call → Reply Error}
    (h : (ρ .redactionAlterDatabase).tookEffect = false) : Stops (enforceReadOnly name) ρ w w := by
  have hok : (ρ .redactionAlterDatabase).isOk = false :=
    Bool.eq_false_iff.mpr fun hok => by simp [Reply.tookEffect_of_isOk hok] at h
  have hstops := Stops.call (f := World.patchDatabase name fun d =>
    { d with databaseReadOnly := true }) (s := w) hok
  rw [h] at hstops
  exact hstops.bind

/-- A call that leaves the lock in place stops with it in place. -/
theorem Locked.stops {name : String} {w' : World} (h : Locked name w w') {c : Call}
    {ρ : Call → Reply Error} {f : Database → Database}
    (hf : ∀ d, (f d).databaseReadOnly = d.databaseReadOnly) (hok : (ρ c).isOk = false) :
    ∃ w'', Locked name w w'' ∧ Stops (Prog.call c (World.patchDatabase name f)) ρ w' w'' := by
  refine ⟨_, ?_, Stops.call hok⟩
  split
  · exact h.patch hf
  · exact h

/-- **The statements of the lock**, the first of which took effect: they end or stop, and either way the
    database is locked. -/
theorem enforceReadOnly_locked {name : String} {ρ : Call → Reply Error}
    (h : (ρ .redactionAlterDatabase).tookEffect = true) :
    ∃ w', Locked name w w' ∧
      if ((ρ .redactionAlterDatabase).isOk && (ρ .redactionGrant).isOk && (ρ .redactionDemote).isOk) then
        enforceReadOnly name ρ w = .done () w'
      else Stops (enforceReadOnly name) ρ w w' := by
  unfold enforceReadOnly
  have halter := locked_alter name w
  cases hok : (ρ .redactionAlterDatabase).isOk with
  | false =>
    have hstops := Stops.call (f := World.patchDatabase name fun d =>
      { d with databaseReadOnly := true }) (s := w) hok
    rw [if_pos h] at hstops
    exact ⟨_, halter, hstops.bind⟩
  | true =>
  cases hgrant : (ρ .redactionGrant).isOk with
  | false =>
    obtain ⟨w', hlocked, hstops⟩ := halter.stops (f := fun d => { d with readAllData := true })
      (fun _ => rfl) hgrant
    exact ⟨w', hlocked, Stops.after (call_of_ok hok) hstops.bind⟩
  | true =>
  have hread := halter.patch (f := fun d => { d with readAllData := true }) fun _ => rfl
  cases hdemote : (ρ .redactionDemote).isOk with
  | false =>
    obtain ⟨w', hlocked, hstops⟩ := hread.stops (f := fun d => { d with superuser := false })
      (fun _ => rfl) hdemote
    exact ⟨w', hlocked, Stops.after (call_of_ok hok) (Stops.after (call_of_ok hgrant) hstops)⟩
  | true =>
    refine ⟨_, hread.patch (f := fun d => { d with superuser := false }) fun _ => rfl, ?_⟩
    show _ = _
    rw [bind_of_done (call_of_ok hok), bind_of_done (call_of_ok hgrant), call_of_ok hdemote]

/-! ## The gate -/

/-- The redaction stops before it has changed anything. -/
theorem reconcileRedaction_untouched {replica : Replica} {ρ : Call → Reply Error}
    (h : ∀ spec, replica.spec.redaction = some spec → (validateSpec spec).isOk = true →
      appliesManifest ρ spec = true → shouldEnforceReadOnly replica.spec = true ∧
        (ρ .redactionAlterDatabase).tookEffect = false) :
    Stops (reconcileRedaction p replica r) ρ w w := by
  unfold reconcileRedaction
  cases hspec : replica.spec.redaction with
  | none => exact Stops.fail _
  | some spec =>
    simp only
    cases hvalid : validateSpec spec with
    | error e => exact Stops.fail _
    | ok u =>
      simp only
      cases happlies : appliesManifest ρ spec with
      | false => exact (runRedaction_stops happlies).bind
      | true =>
        obtain ⟨henforce, halter⟩ := h spec hspec (by rw [hvalid]; rfl) happlies
        obtain ⟨version, hrun⟩ : ∃ version, runRedaction p replica spec r.name ρ w = _ :=
          runRedaction_applied happlies
        rw [henforce] at hrun
        have hstops : Stops (runRedaction p replica spec r.name) ρ w w := by
          unfold Stops
          rw [hrun]
          exact (enforceReadOnly_untouched halter).bind
        exact hstops.bind

/-- **The manifest is applied**: the redaction ends as the lock does, if there is one. -/
theorem reconcileRedaction_applied {replica : Replica} {spec : RedactionSpec} {ρ : Call → Reply Error}
    (hspec : replica.spec.redaction = some spec) (hvalid : (validateSpec spec).isOk = true)
    (happlies : appliesManifest ρ spec = true) :
    ∃ version, reconcileRedaction p replica r ρ w =
      ((Prog.when (shouldEnforceReadOnly replica.spec) (enforceReadOnly r.name) >>= fun _ =>
        pure (version, p.redactionOutcome)) >>= fun result =>
          Prog.modify (World.log (.redacted r.uid)) >>= fun _ => pure result) ρ w := by
  obtain ⟨version, hrun⟩ : ∃ version, runRedaction p replica spec r.name ρ w = _ :=
    runRedaction_applied happlies
  refine ⟨version, ?_⟩
  unfold reconcileRedaction
  rw [hspec]
  simp only
  cases hcheck : validateSpec spec with
  | error e =>
    rw [hcheck] at hvalid
    cases hvalid
  | ok u =>
    show Prog.andThen _ _ ρ w = Prog.andThen _ _ ρ w
    unfold Prog.andThen
    rw [hrun]

/-- Without a lock, the redaction ends and leaves the database as it was. -/
theorem reconcileRedaction_open {replica : Replica} {spec : RedactionSpec} {ρ : Call → Reply Error}
    (hspec : replica.spec.redaction = some spec) (hvalid : (validateSpec spec).isOk = true)
    (happlies : appliesManifest ρ spec = true) (henforce : shouldEnforceReadOnly replica.spec = false) :
    ∃ result, reconcileRedaction p replica r ρ w = .done result (w.log (.redacted r.uid)) := by
  obtain ⟨version, hrun⟩ := reconcileRedaction_applied (p := p) (r := r) (w := w) hspec hvalid happlies
  rw [henforce] at hrun
  exact ⟨_, hrun⟩

/-- With a lock, the redaction ends or stops as the lock does. -/
theorem reconcileRedaction_locked {replica : Replica} {spec : RedactionSpec} {ρ : Call → Reply Error}
    (hspec : replica.spec.redaction = some spec) (hvalid : (validateSpec spec).isOk = true)
    (happlies : appliesManifest ρ spec = true) (henforce : shouldEnforceReadOnly replica.spec = true)
    (halter : (ρ .redactionAlterDatabase).tookEffect = true) :
    ∃ w', Locked r.name w w' ∧
      if ((ρ .redactionAlterDatabase).isOk && (ρ .redactionGrant).isOk && (ρ .redactionDemote).isOk) then
        ∃ result, reconcileRedaction p replica r ρ w = .done result w'
      else Stops (reconcileRedaction p replica r) ρ w w' := by
  obtain ⟨version, hrun⟩ := reconcileRedaction_applied (p := p) (r := r) (w := w) hspec hvalid happlies
  obtain ⟨w', hlocked, hends⟩ := @enforceReadOnly_locked w r.name ρ halter
  rw [henforce] at hrun
  by_cases hall : ((ρ .redactionAlterDatabase).isOk && (ρ .redactionGrant).isOk &&
      (ρ .redactionDemote).isOk) = true
  · rw [if_pos hall] at hends
    refine ⟨w'.log (.redacted r.uid), ⟨hlocked.replica, hlocked.readOnly⟩, ?_⟩
    rw [if_pos hall]
    refine ⟨(version, p.redactionOutcome), ?_⟩
    have hlock : Prog.when true (enforceReadOnly r.name) ρ w = .done () w' := hends
    rw [hrun, bind_of_done (bind_of_done hlock)]
    rfl
  · rw [if_neg hall] at hends
    refine ⟨w', hlocked, ?_⟩
    rw [if_neg hall]
    unfold Stops
    rw [hrun]
    have hlock : Stops (Prog.when true (enforceReadOnly r.name)) ρ w w' := hends
    exact hlock.bind.bind

/-- What the gate does once the phase is Active. -/
def redactAndSettle (p : ReplicaPass) (replica : Replica) (r : Restore) : Op Bool := do
  let result ← Prog.attempt (reconcileRedaction p replica r)
  match result with
  | .ok (version, outcome) => do
    Op.patchStatus .redactionPatchSettled fun s =>
      { s with
        redactionPhase := some outcome.phase
        redactionVersion := version
        redactionColumnsApplied := some outcome.columnsAttempted }
    return true
  | .error e => do
    Op.patchStatus .redactionPatchFailed fun s =>
      { s with redactionPhase := some (.failed e.display) }
    Op.publishEvent "RedactionFailed"
    return false

/-- A redaction that stopped is recorded as failed, if at all. -/
theorem redactAndSettle_of_stops {replica : Replica} {ρ : Call → Reply Error} {w' : World}
    (h : Stops (reconcileRedaction p replica r) ρ w w') (hpending : redactionDone w' = false) :
    redactionDone (redactAndSettle p replica r ρ w).state = false ∧
      (redactAndSettle p replica r ρ w).state.databases = w'.databases := by
  rcases h.attempt with ⟨e, hattempt⟩ | hattempt
  · have hstate : (redactAndSettle p replica r ρ w).state =
        if (ρ .redactionPatchFailed).tookEffect then
          w'.patchStatus fun s => { s with redactionPhase := some (.failed e.display) }
        else w' := by
      unfold redactAndSettle
      rw [bind_of_done hattempt]
      -- what is published after the patch changes nothing
      refine Quiet.call_bind_state fun _ => ?_
      refine Quiet.bind (Quiet.bind (Quiet.bestEffort (Quiet.call fun _ => rfl)) fun _ => Quiet.ret _) ?_
      exact fun _ => Quiet.ret _
    rw [hstate]
    split
    · exact ⟨rfl, rfl⟩
    · exact ⟨hpending, rfl⟩
  · have hstops : Stops (redactAndSettle p replica r) ρ w w' := Stops.bind (.inr hattempt)
    rw [hstops.state]
    exact ⟨hpending, rfl⟩

/-- A redaction that ended is recorded as done, if its result is recorded at all. -/
theorem redactAndSettle_of_done {replica : Replica} {ρ : Call → Reply Error} {w' : World}
    {result : Option String × RedactionOutcome}
    (h : reconcileRedaction p replica r ρ w = .done result w') (hpending : redactionDone w' = false) :
    redactionDone (redactAndSettle p replica r ρ w).state = (ρ .redactionPatchSettled).tookEffect ∧
      (redactAndSettle p replica r ρ w).state.databases = w'.databases := by
  have hattempt : Prog.attempt (reconcileRedaction p replica r) ρ w = .done (.ok result) w' := by
    unfold Prog.attempt
    rw [h]
  have hdone : result.2.phase.isDone = true := by
    unfold RedactionOutcome.phase
    split <;> rfl
  have hstate : (redactAndSettle p replica r ρ w).state =
      if (ρ .redactionPatchSettled).tookEffect then
        w'.patchStatus fun s =>
          { s with
            redactionPhase := some result.2.phase
            redactionVersion := result.1
            redactionColumnsApplied := some result.2.columnsAttempted }
      else w' := by
    unfold redactAndSettle
    rw [bind_of_done hattempt]
    exact Quiet.call_bind_state fun _ => Quiet.ret _
  rw [hstate]
  cases (ρ .redactionPatchSettled).tookEffect with
  | true => exact ⟨hdone, rfl⟩
  | false => exact ⟨hpending, rfl⟩

/-- The gate, for a redaction that is not done. -/
theorem redactionStep_eq {ρ : Call → Reply Error} (h : redactionDone w = false) :
    reconcileRedactionStep p w.replica r ρ w =
      (Prog.when (w.replica.status.redactionPhase ≠ some .active)
        (Op.patchStatus .redactionPatchActive fun s => { s with redactionPhase := some .active }) >>=
          fun _ => redactAndSettle p w.replica r) ρ w := by
  unfold reconcileRedactionStep
  rw [if_neg (by rw [show w.replica.status.redactionPhase.any RedactionPhase.isDone = false from h]; simp)]
  rfl

/-- The phase is Active before the statements: it was, or it is recorded so. -/
theorem patchActive_ends {ρ : Call → Reply Error} (h : redactionDone w = false) :
    ∃ w₁, redactionDone w₁ = false ∧ w₁.databases = w.databases ∧
      if (w.replica.status.redactionPhase == some .active || (ρ .redactionPatchActive).isOk) then
        Prog.when (w.replica.status.redactionPhase ≠ some .active)
          (Op.patchStatus .redactionPatchActive fun s => { s with redactionPhase := some .active }) ρ w =
          .done () w₁
      else Stops (Prog.when (w.replica.status.redactionPhase ≠ some .active)
          (Op.patchStatus .redactionPatchActive fun s => { s with redactionPhase := some .active })) ρ w
          w₁ := by
  by_cases hactive : w.replica.status.redactionPhase = some .active
  · refine ⟨w, h, rfl, ?_⟩
    simp only [hactive, ne_eq, not_true_eq_false, decide_false, beq_self_eq_true, Bool.true_or, if_true]
    rfl
  · simp only [ne_eq, hactive, not_false_eq_true, decide_true, Prog.when, if_true,
      beq_false_of_ne hactive, Bool.false_or]
    cases hok : (ρ .redactionPatchActive).isOk with
    | true =>
      exact ⟨w.patchStatus fun s => { s with redactionPhase := some .active }, rfl, rfl,
        call_of_ok hok⟩
    | false =>
      have hstops := Stops.call (f := World.patchStatus fun s => { s with redactionPhase := some .active })
        (s := w) hok
      cases heffect : (ρ .redactionPatchActive).tookEffect with
      | true =>
        rw [heffect] at hstops
        exact ⟨w.patchStatus fun s => { s with redactionPhase := some .active }, rfl, rfl, hstops⟩
      | false =>
        rw [heffect] at hstops
        exact ⟨w, h, rfl, hstops⟩

/-- **What a pass over a redaction that is not done comes to.**  Either it does not lock the database and
    leave the redaction open, and then it is done or the database is as it was; or it does. -/
inductive PassEnd (r : Restore) (w : World) (p : ReplicaPass) (w' : World) : Prop where
  | settled (hcondition : locksUnsettled w p = false) (hdone : redactionDone w' = true)
  | unlocked (hcondition : locksUnsettled w p = false) (hsame : w'.databases = w.databases)
  | unsettled (hcondition : locksUnsettled w p = true) (hpending : redactionDone w' = false)
      (hlocked : (w'.databases r.name).databaseReadOnly = true)

/-- The statements, from a world in which the phase is Active. -/
theorem redactAndSettle_ends {w₁ : World} (h : redactionDone w = false)
    (hactive : (w.replica.status.redactionPhase == some .active ||
      (p.replies .redactionPatchActive).isOk) = true)
    (hpending : redactionDone w₁ = false) (hsame : w₁.databases = w.databases) :
    PassEnd r w p (redactAndSettle p w.replica r p.replies w₁).state := by
  by_cases happlied : ∃ spec, w.replica.spec.redaction = some spec ∧ (validateSpec spec).isOk = true ∧
      appliesManifest p.replies spec = true ∧
      (shouldEnforceReadOnly w.replica.spec = true →
        (p.replies .redactionAlterDatabase).tookEffect = true)
  · obtain ⟨spec, hspec, hvalid, happlies, halter⟩ := happlied
    cases henforce : shouldEnforceReadOnly w.replica.spec with
    | false =>
      -- nothing is locked
      obtain ⟨result, hrun⟩ := reconcileRedaction_open (p := p) (r := r) (w := w₁) hspec hvalid
        happlies henforce
      have hends := redactAndSettle_of_done hrun hpending
      exact .unlocked (by simp [locksUnsettled, henforce]) (hends.2.trans hsame)
    | true =>
      have hcondition : locksUnsettled w p = !locksAndSettles p.replies := by
        simp [locksUnsettled, h, startsRedaction, hactive, hspec, hvalid, happlies, henforce,
          halter henforce]
      obtain ⟨w', hlocked, hends⟩ := reconcileRedaction_locked (p := p) (r := r) (w := w₁) hspec hvalid
        happlies henforce (halter henforce)
      have hpending' : redactionDone w' = false := by
        rw [redactionDone, hlocked.replica]
        exact hpending
      by_cases hall : ((p.replies .redactionAlterDatabase).isOk && (p.replies .redactionGrant).isOk &&
          (p.replies .redactionDemote).isOk) = true
      · rw [if_pos hall] at hends
        obtain ⟨result, hrun⟩ := hends
        obtain ⟨hdone, hdatabases⟩ := redactAndSettle_of_done hrun hpending'
        have hsettles : locksAndSettles p.replies = (p.replies .redactionPatchSettled).tookEffect := by
          rw [locksAndSettles, hall, Bool.true_and]
        cases hsettled : (p.replies .redactionPatchSettled).tookEffect with
        | true => exact .settled (by simp [hcondition, hsettles, hsettled]) (hdone.trans hsettled)
        | false =>
          exact .unsettled (by simp [hcondition, hsettles, hsettled]) (hdone.trans hsettled)
            (hdatabases ▸ hlocked.readOnly)
      · rw [if_neg hall] at hends
        obtain ⟨hdone, hdatabases⟩ := redactAndSettle_of_stops hends hpending'
        have hsettles : locksAndSettles p.replies = false := by
          rw [locksAndSettles, Bool.eq_false_iff.mpr hall, Bool.false_and]
        exact .unsettled (by rw [hcondition, hsettles]; rfl) hdone (hdatabases ▸ hlocked.readOnly)
  · -- the pass does not come as far as the lock
    have hstops : Stops (reconcileRedaction p w.replica r) p.replies w₁ w₁ := by
      apply reconcileRedaction_untouched
      intro spec hspec hvalid happlies
      by_contra hlock
      refine happlied ⟨spec, hspec, hvalid, happlies, ?_⟩
      intro henforce
      by_contra halter
      exact hlock ⟨henforce, Bool.eq_false_iff.mpr halter⟩
    have hcondition : locksUnsettled w p = false := by
      by_contra hcondition
      simp only [locksUnsettled, startsRedaction, Bool.not_eq_false, Bool.and_eq_true,
        Option.any_eq_true] at hcondition
      obtain ⟨⟨⟨⟨⟨_, _, spec, hspec, hvalid⟩, spec', hspec', happlies⟩, henforce⟩, halter⟩, _⟩ :=
        hcondition
      obtain rfl : spec = spec' := Option.some.inj (hspec.symm.trans hspec')
      exact happlied ⟨spec, hspec, hvalid, happlies, fun _ => halter⟩
    have hends := redactAndSettle_of_stops hstops hpending
    exact .unlocked hcondition (hends.2.trans hsame)

theorem redactionPass_ends (h : redactionDone w = false) : PassEnd r w p (redactionPass r w p) := by
  have hends : PassEnd r w p (reconcileRedactionStep p w.replica r p.replies w).state := by
    rw [redactionStep_eq h]
    obtain ⟨w₁, hpending, hsame, hactive⟩ := patchActive_ends (ρ := p.replies) h
    split at hactive
    · rename_i hphase
      rw [bind_of_done hactive]
      exact redactAndSettle_ends h hphase hpending hsame
    · rename_i hphase
      rw [hactive.bind.state]
      exact .unlocked (by simp [locksUnsettled, startsRedaction, Bool.eq_false_iff.mpr hphase]) hsame
  -- what the operator loses when it is cut is not looked at
  unfold redactionPass
  cases hout : reconcileRedactionStep p w.replica r p.replies w with
  | done b w' =>
    rw [hout] at hends
    exact hends
  | failed e w' =>
    rw [hout] at hends
    exact hends
  | halted w' =>
    rw [hout] at hends
    cases hends with
    | settled hcondition hdone => exact .settled hcondition hdone
    | unlocked hcondition hsame => exact .unlocked hcondition hsame
    | unsettled hcondition hpending hlocked => exact .unsettled hcondition hpending hlocked

/-- **One pass**: a redaction can be tried again exactly when the pass does not lock the database and
    leave the redaction open. -/
theorem Retryable.pass_iff (h : Retryable r w) :
    Retryable r (redactionPass r w p) ↔ locksUnsettled w p = false := by
  cases hdone : redactionDone w with
  | true =>
    have hsame : redactionPass r w p = w := by
      unfold redactionPass reconcileRedactionStep
      rw [if_pos (show w.replica.status.redactionPhase.any RedactionPhase.isDone = true from hdone)]
      rfl
    rw [hsame]
    exact iff_of_true h (by simp [locksUnsettled, hdone])
  | false =>
    have hcan := h hdone
    cases redactionPass_ends (r := r) (p := p) hdone with
    | settled hcondition hdone' =>
      refine iff_of_true ?_ hcondition
      intro hpending
      rw [hdone'] at hpending
      cases hpending
    | unlocked hcondition hsame =>
      refine iff_of_true ?_ hcondition
      intro _
      rw [canRedact, hsame]
      exact hcan
    | unsettled hcondition hpending hlocked =>
      refine iff_of_false ?_ (by simp [hcondition])
      intro hretry
      have hcan' := hretry hpending
      simp [canRedact, hlocked] at hcan'

/-! ## Every sequence of attempts -/

/-- **A redaction that is not done can be tried again, after every pass of a run**, exactly when no pass
    makes the database read-only and then fails before its result is recorded. -/
theorem retryable_iff_no_unsettled_lock (r : Restore) (w : World) (hcan : canRedact r.name w = true)
    (passes : List ReplicaPass) :
    Always (redactionPass r) (Retryable r) w passes ↔
      Meets (redactionPass r) (fun w p => locksUnsettled w p = false) w passes := by
  refine always_iff_meets (I := fun _ => True) (fun _ _ _ => trivial) ?_ trivial (fun _ => hcan) passes
  intro w p _ hretry
  exact hretry.pass_iff

/-- A replica with a redaction, whose restore is up and can be written to. -/
def writableRestore : World :=
  { World.initial ⟨"ns", "r"⟩ { plainSpec with redaction := some { manifestUrl := "manifest" } } with
    databases := fun _ => { serving := true, superuser := true } }

/-- The result of the redaction is refused: the API server cannot be reached. -/
def settledRefused : ReplicaPass :=
  { now := 0
    replies := fun
      | .redactionPatchSettled => .refused (.kube "unavailable")
      | _ => .ok }

/-- **The redaction is not done, and its next attempt has neither a superuser nor a database it can write
    to.** -/
theorem settled_refused_not_retryable :
    ¬ Always (redactionPass (plainRestore 0 "r-1" "s" {})) (Retryable (plainRestore 0 "r-1" "s" {}))
        writableRestore [settledRefused] ∧
      canRedact "r-1" writableRestore = true ∧
      (redactionPass (plainRestore 0 "r-1" "s" {}) writableRestore
        settledRefused).replica.status.redactionPhase = some .active ∧
      (redactionPass (plainRestore 0 "r-1" "s" {}) writableRestore settledRefused).databases "r-1" =
        { serving := true, readAllData := true, databaseReadOnly := true } := by
  refine ⟨?_, by decide +kernel, by decide +kernel, by decide +kernel⟩
  intro h
  have hcan := h.last (by decide +kernel)
  revert hcan
  decide +kernel

/-- The statements are cut off, and the next pass redacts and settles. -/
def cutThenSettled : List ReplicaPass :=
  [{ now := 0
     replies := fun
       | .redactionApply => .cut
       | _ => .ok },
    { now := 30 }]

theorem cut_off_statements_retryable :
    Always (redactionPass (plainRestore 0 "r-1" "s" {})) (Retryable (plainRestore 0 "r-1" "s" {}))
        writableRestore cutThenSettled ∧
      (runFrom (redactionPass (plainRestore 0 "r-1" "s" {})) writableRestore
        cutThenSettled).replica.status.redactionPhase = some .complete :=
  ⟨(retryable_iff_no_unsettled_lock _ writableRestore (by decide +kernel) cutThenSettled).mpr
    (by decide +kernel), by decide +kernel⟩

end RestoreOperator

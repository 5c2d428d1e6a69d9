import Mathlib.Logic.Function.Basic
import RestoreOperator.Base.Words
import RestoreOperator.Calls.Prog

/-!
# `Restore.Startup` — how a restored data directory comes to serve

The pod of a restore runs two scripts over the volume the snapshot was restored to.  The init container
makes the data directory usable: it recovers it, if need be by throwing its WAL away, and rewrites the
locales this OS does not have.  Either may leave indexes behind that have to be rebuilt, so it leaves flag
files on the volume.  Next to the server a background job picks the flags up, rebuilds, and removes them.

The scripts are programs over their own calls: a command ends well, fails, or is the last thing the
container does.  The init script runs under `set -e`, so a command that fails ends it unless its status is
looked at; the background job goes on after each failure.
-/

namespace RestoreOperator

open Calls

namespace Startup

/-! ## The volume -/

/-- The flag files. -/
inductive Flag where
  | needsReindex
  | needsReindexAll
  | needsCollationRefresh
  | fixLocale
  | fixResetWal
  | fixRecreatedPgWal
  deriving DecidableEq

/-- A collation of a database, other than its default.  It is mismatched if the version recorded for it is
    not that of this OS. -/
structure Collation where
  name : String
  mismatched : Bool := false
  deriving DecidableEq

/-- **An index**, and what may be wrong with it: its order is not that of the database's default
    collation (`unsorted`) or not that of this OS's version of its other collations (`outdated`), or it has
    pages that were never written (`torn`). -/
structure Index where
  name : String
  onDefault : Bool := false
  collations : List String := []
  isValid : Bool := true
  isSystem : Bool := false
  isExclusion : Bool := false
  unsorted : Bool := false
  outdated : Bool := false
  torn : Bool := false
  deriving DecidableEq

/-- A database.  It is non-conforming if its default locale is none this OS has; the version recorded for its
    default collation may be mismatched as well. -/
structure Database where
  name : String
  allowsConnections : Bool := true
  nonConforming : Bool := false
  defaultMismatched : Bool := false
  collations : List Collation := []
  indexes : List Index := []
  deriving DecidableEq

/-- The databases clients can connect to. -/
def Database.isUser (db : Database) : Bool := db.allowsConnections && db.name != "template0"

/-- The stage a restore says it is in. -/
inductive Stage where
  | restored
  | reindexing
  | ready
  | outgoing
  deriving DecidableEq

/-- The fixes a restore needed. -/
structure Fixes where
  locale : Bool
  reindex : Bool
  resetWal : Bool
  recreatedPgWal : Bool
  deriving DecidableEq

/-- The row of `_pgro.restore_info`. -/
structure RestoreInfo where
  stage : Stage
  fixes : Fixes
  deriving DecidableEq

/-- **What is on the volume of a restore.** -/
structure Volume where
  databases : List Database
  files : Flag → Bool := fun _ => false
  hasWal : Bool := true
  info : Option RestoreInfo := none

/-! ## What the commands do -/

/-- An index that was built anew. -/
def Index.rebuilt (i : Index) : Index :=
  { i with isValid := true, unsorted := false, outdated := false, torn := false }

/-- The index can be rebuilt beside the one in use.  A rebuild of a whole database warns of any other and
    passes it by. -/
def Index.rebuildsConcurrently (i : Index) : Bool := i.isValid && !i.isSystem && !i.isExclusion

namespace Volume

def touch (f : Flag) (v : Volume) : Volume := { v with files := Function.update v.files f true }

def remove (f : Flag) (v : Volume) : Volume := { v with files := Function.update v.files f false }

@[simp] theorem touch_files_self (f : Flag) (v : Volume) : (v.touch f).files f = true := by
  simp only [touch, Function.update_self]

theorem touch_files_of_ne {f g : Flag} (h : f ≠ g) (v : Volume) : (v.touch g).files f = v.files f := by
  simp only [touch, Function.update_of_ne h]

theorem remove_files_of_ne {f g : Flag} (h : f ≠ g) (v : Volume) : (v.remove g).files f = v.files f := by
  simp only [remove, Function.update_of_ne h]

/-- Change the indexes of a database. -/
def mapIndexes (db : String) (f : Index → Index) (v : Volume) : Volume :=
  { v with databases := v.databases.map fun d =>
      if d.name = db then { d with indexes := d.indexes.map f } else d }

/-- `REINDEX INDEX`. -/
def reindexIndex (db index : String) (v : Volume) : Volume :=
  v.mapIndexes db fun i => if i.name = index then i.rebuilt else i

/-- `REINDEX DATABASE`. -/
def reindexDatabase (concurrently : Bool) (db : String) (v : Volume) : Volume :=
  v.mapIndexes db fun i => if concurrently && !i.rebuildsConcurrently then i else i.rebuilt

/-- How many databases a locale rewrite would change. -/
def localeMismatch (v : Volume) : Nat := (v.databases.filter (·.nonConforming)).length

/-- **Rewrite the locales**: the indexes ordered by one that changes are no longer in its order, and it has no
    recorded version. -/
def rewriteLocales (v : Volume) : Volume :=
  { v with databases := v.databases.map fun d =>
      if d.nonConforming then
        { d with
          nonConforming := false
          defaultMismatched := false
          indexes := d.indexes.map fun i => { i with unsorted := i.unsorted || i.onDefault } }
      else d }

/-- `pg_resetwal -f`: an update of any index may have been in flight. -/
def resetWal (v : Volume) : Volume :=
  { v with databases := v.databases.map fun d =>
      { d with indexes := d.indexes.map fun i => { i with torn := true } } }

/-- `ALTER COLLATION … REFRESH VERSION`. -/
def refreshVersion (db collation : String) (v : Volume) : Volume :=
  { v with databases := v.databases.map fun d =>
      if d.name = db then
        { d with collations := d.collations.map fun c =>
            if c.name = collation then { c with mismatched := false } else c }
      else d }

/-- `ALTER DATABASE … REFRESH COLLATION VERSION`: the version of the default collation. -/
def refreshDatabaseVersion (db : String) (v : Volume) : Volume :=
  { v with databases := v.databases.map fun d =>
      if d.name = db then { d with defaultMismatched := false } else d }

/-- The databases, as the scripts list them. -/
def databaseNames (v : Volume) : List String := (v.databases.filter (·.isUser)).map (·.name)

/-- The indexes of a database that a rewrite of its locale invalidates. -/
def defaultIndexes (db : String) (v : Volume) : List String :=
  (v.databases.filter (·.name = db)).flatMap fun d =>
    (d.indexes.filter fun i => i.onDefault && i.isValid).map (·.name)

/-- The collations of a database with another version. -/
def mismatched (d : Database) : List String := (d.collations.filter (·.mismatched)).map (·.name)

def mismatchedCollations (db : String) (v : Volume) : List String :=
  (v.databases.filter (·.name = db)).flatMap mismatched

/-- The indexes of a database that are ordered by such a collation. -/
def mismatchedIndexes (db : String) (v : Volume) : List String :=
  (v.databases.filter (·.name = db)).flatMap fun d =>
    (d.indexes.filter fun i =>
      i.isValid && !i.isSystem && i.collations.any (· ∈ mismatched d)).map (·.name)

def setStage (stage : Stage) (v : Volume) : Volume :=
  { v with info := v.info.map fun row => { row with stage := stage } }

end Volume

/-- **What a `for` makes of a listing**: the names fall apart at blanks. -/
def forWords (names : List String) : List String :=
  names.flatMap fun name =>
    (Words.words (fun c => c ∉ [' ', '\t', '\n']) id name.toList).map String.ofList

/-- The name is one word. -/
def IsWord (name : String) : Prop := forWords [name] = [name]

instance (name : String) : Decidable (IsWord name) := inferInstanceAs (Decidable (_ = _))

/-! ## The init container -/

/-- The runs of `postgres --single` in one init: the first, the one without a known cause, and the one after
    `pg_resetwal`. -/
inductive Attempt where
  | first
  | second
  | last
  deriving DecidableEq

/-- Where the init script touches a flag. -/
inductive Place where
  | wal
  | resetWal
  | single
  | fallback
  | versions
  deriving DecidableEq

/-- The commands of the init script. -/
inductive SetupCall where
  | configure
  | mkdirWal
  | recover (n : Attempt)
  | probe (n : Attempt)
  | rewrite (n : Attempt)
  | shutdown (n : Attempt)
  | resetWal
  | touch (place : Place) (f : Flag)
  | start
  | clearPasswords
  | fallbackStatement
  | fallback
  | fallbackDatabases
  | fixCollations (db : String)
  | hasCollationVersions
  | databases
  | countMismatches (db : String)
  | roles
  | infoStatement
  | writeInfo
  | progressFunction
  | stop
  | readOnly
  deriving DecidableEq

/-- What the log of a failed run shows: one of the signatures of a WAL that cannot be replayed, or not. -/
inductive PgError where
  | walRecovery
  | other
  deriving DecidableEq

/-- **The init script's state**: the volume, the counts that `LOCALE_PROBE` shows, and, for the proofs, the
    flags that are owed: something was done that needs the flag, and it was not touched since. -/
structure Setup where
  volume : Volume
  probe : List Nat := []
  owed : Flag → Bool := fun _ => false

namespace Setup

def touch (f : Flag) (s : Setup) : Setup :=
  { s with volume := s.volume.touch f, owed := Function.update s.owed f false }

def rewriteLocales (s : Setup) : Setup :=
  { s with
    volume := s.volume.rewriteLocales
    owed :=
      if s.volume.localeMismatch = 0 then s.owed else Function.update s.owed .needsReindex true }

def resetWal (s : Setup) : Setup :=
  { s with volume := s.volume.resetWal, owed := Function.update s.owed .needsReindexAll true }

@[simp] theorem touch_owed_self (f : Flag) (s : Setup) : (s.touch f).owed f = false := by
  simp only [touch, Function.update_self]

theorem touch_owed_of_ne {f g : Flag} (h : f ≠ g) (s : Setup) : (s.touch g).owed f = s.owed f := by
  simp only [touch, Function.update_of_ne h]

@[simp] theorem resetWal_owed_self (s : Setup) : s.resetWal.owed .needsReindexAll = true := by
  simp only [resetWal, Function.update_self]

theorem resetWal_owed_of_ne {f : Flag} (h : f ≠ .needsReindexAll) (s : Setup) :
    s.resetWal.owed f = s.owed f := by
  simp only [resetWal, Function.update_of_ne h]

/-- Only a rewrite that changes something is owed its flag. -/
theorem rewriteLocales_owed (s : Setup) (f : Flag) :
    s.rewriteLocales.owed f = true ↔ s.owed f = true ∨ f = .needsReindex ∧ s.volume.localeMismatch ≠ 0 := by
  unfold rewriteLocales
  by_cases hnone : s.volume.localeMismatch = 0
  · simp [hnone]
  · by_cases hf : f = .needsReindex
    · subst hf
      simp [hnone]
    · simp [hnone, hf]

end Setup

abbrev SetupScript := Prog SetupCall Setup PgError

def touch (place : Place) (f : Flag) : SetupScript Unit := Prog.call (.touch place f) (Setup.touch f)

def probeLocales (n : Attempt) : SetupScript Unit := do
  let count ← Prog.read (.probe n) fun s => s.volume.localeMismatch
  Prog.modify fun s => { s with probe := s.probe ++ [count] }

/-- **`postgres --single`**: recover, run the two statements, shut down.  A statement that fails says so and
    the next one runs. -/
def postgresSingle (n : Attempt) : SetupScript Unit := do
  Prog.ask (.recover n) ()
  let _ ← Prog.bestEffort (probeLocales n)
  let _ ← Prog.bestEffort (Prog.call (.rewrite n) Setup.rewriteLocales)
  Prog.ask (.shutdown n) ()

def pgResetwal : SetupScript Unit := do
  Prog.call .resetWal Setup.resetWal
  touch .resetWal .needsReindexAll
  touch .resetWal .fixResetWal

/-- **Run the statements, and throw the WAL away if nothing else helps.**  A known signature is not tried
    again first. -/
def postgresSingleOrResetwal : SetupScript Unit := do
  match ← Prog.attempt (postgresSingle .first) with
  | .ok _ => pure ()
  | .error .walRecovery =>
    pgResetwal
    postgresSingle .last
  | .error .other =>
    match ← Prog.attempt (postgresSingle .second) with
    | .ok _ => pure ()
    | .error _ =>
      pgResetwal
      postgresSingle .last

/-- Rewrite the locales in single-user mode, and flag it if any run counted one to rewrite. -/
def fixLocales : SetupScript Unit := do
  postgresSingleOrResetwal
  let s ← Prog.get
  Prog.when (s.probe.any (0 < ·)) do
    touch .single .fixLocale
    touch .single .needsReindex

/-- Rewrite the locales that are left.  `LOCALE_CHANGED` is empty if the statement failed. -/
def localeChanged : SetupScript Nat := do
  if ← Prog.bestEffort (Prog.ask .fallbackStatement ()) then
    let s ← Prog.get
    Prog.call .fallback Setup.rewriteLocales
    pure s.volume.localeMismatch
  else pure 0

/-- What a command puts out, as `$(…)` has it: nothing if it failed. -/
def output {κ σ ε α : Type} (m : Prog κ σ ε (List α)) : Prog κ σ ε (List α) := do
  match ← Prog.attempt m with
  | .ok names => pure names
  | .error _ => pure []

/-- A session in a database.  There is none in a database that is not there. -/
def session (c : SetupCall) (db : String) : SetupScript Unit := do
  let s ← Prog.get
  if s.volume.databases.any fun d => d.name = db ∧ d.allowsConnections then Prog.ask c ()
  else Prog.fail .other

def fixLocalesFallback : SetupScript Unit := do
  let changed ← localeChanged
  let names ← output (Prog.read .fallbackDatabases fun s => s.volume.databaseNames)
  Prog.each (forWords names) fun db => session (.fixCollations db) db
  Prog.when (changed != 0) do
    touch .fallback .fixLocale
    touch .fallback .needsReindex

/-- The mismatches of the databases, one after the other. -/
def countMismatches : List String → SetupScript Nat
  | [] => pure 0
  | db :: rest => do
    let here ← output (Prog.read (.countMismatches db) fun s => s.volume.mismatchedCollations db)
    let others ← countMismatches rest
    pure (here.length + others)

def flagCollations : SetupScript Unit := do
  let known ← Prog.bestEffort (Prog.ask .hasCollationVersions ())
  Prog.when known do
    let names ← output (Prog.read .databases fun s => s.volume.databaseNames)
    let mismatches ← countMismatches (forWords names)
    Prog.when (mismatches != 0) (touch .versions .needsCollationRefresh)

/-- The row that says what the init script came to. -/
def restoreInfo (v : Volume) : RestoreInfo :=
  { stage := if v.files .needsReindex || v.files .needsReindexAll then .restored else .ready
    fixes :=
      { locale := v.files .fixLocale
        reindex := v.files .needsReindex || v.files .needsReindexAll
        resetWal := v.files .fixResetWal
        recreatedPgWal := v.files .fixRecreatedPgWal } }

def writeInfo : SetupScript Unit := do
  let ran ← Prog.bestEffort (Prog.ask .infoStatement ())
  Prog.when ran (Prog.call .writeInfo fun s =>
    { s with volume := { s.volume with info := some (restoreInfo s.volume) } })

/-- **The init container.** -/
def setupAuth (isReadOnly : Bool) : SetupScript Unit := do
  Prog.ask .configure ()
  let s ← Prog.get
  Prog.when (!s.volume.hasWal) do
    Prog.call .mkdirWal fun s => { s with volume := { s.volume with hasWal := true } }
    touch .wal .fixRecreatedPgWal
  fixLocales
  Prog.ask .start ()
  let _ ← Prog.bestEffort (Prog.ask .clearPasswords ())
  fixLocalesFallback
  flagCollations
  Prog.ask .roles ()
  writeInfo
  Prog.ask .progressFunction ()
  Prog.ask .stop ()
  Prog.when isReadOnly (Prog.ask .readOnly ())

/-! ## The background job -/

/-- The branches of the background job. -/
inductive Branch where
  | locale
  | all
  | collation
  deriving DecidableEq

/-- The commands of the background job. -/
inductive HookCall where
  | pgIsready
  | stage (s : Stage)
  | databases (b : Branch)
  | indexes (b : Branch) (db : String)
  | reindex (b : Branch) (db index : String)
  | reindexDatabase (db : String)
  | collations (db : String)
  | serverVersion
  | refresh (db collation : String)
  | refreshDatabase (db : String)
  | remove (f : Flag)
  deriving DecidableEq

abbrev HookScript := Prog HookCall Volume Unit

/-- A command whose failure is passed over. -/
def orTrue (c : HookCall) (f : Volume → Volume) : HookScript Unit := do
  let _ ← Prog.bestEffort (Prog.call c f)

/-- Rebuild the indexes of a database that the rewrite of its locale put out of order. -/
def reindexDefault (db : String) : HookScript Unit := do
  let indexes ← output (Prog.read (.indexes .locale db) (Volume.defaultIndexes db))
  Prog.each indexes fun index => orTrue (.reindex .locale db index) (Volume.reindexIndex db index)

/-- Go through the databases. -/
def forDatabases (b : Branch) (f : String → HookScript Unit) : HookScript Unit := do
  let names ← output (Prog.read (.databases b) Volume.databaseNames)
  Prog.each (forWords names) f

/-- After the locales were rewritten. -/
def reindexLocale : HookScript Unit := do
  forDatabases .locale reindexDefault
  orTrue (.remove .needsReindex) (Volume.remove .needsReindex)

/-- After the WAL was thrown away. -/
def reindexAll (pgMajor : Nat) : HookScript Unit := do
  forDatabases .all fun db =>
    orTrue (.reindexDatabase db) (Volume.reindexDatabase (12 ≤ pgMajor) db)
  orTrue (.remove .needsReindexAll) (Volume.remove .needsReindexAll)

section Listings

variable (stderr : HookCall → List String)

/-- **A listing in a file**, with what it says on its standard error, blank lines apart.  `stderr` is that: an
    error if the listing fails, and the warnings its session starts with. -/
def listingFile (c : HookCall) (names : Volume → List String) : HookScript (List String) := do
  let listed ← output (Prog.read c names)
  pure (stderr c ++ listed)

/-- Rebuild the indexes of a database whose collations, the default one apart, have another version here.
    Every line of the file is taken for an index; the sweep is clean if no rebuild fails. -/
def sweepCollations (db : String) : HookScript Bool := do
  let lines ← listingFile stderr (.indexes .collation db) (Volume.mismatchedIndexes db)
  Prog.eachAll lines fun index =>
    Prog.bestEffort (Prog.call (.reindex .collation db index) (Volume.reindexIndex db index))

/-- **Record the versions of this OS**, only after a clean sweep.  That of the default collation is recorded
    too, where the server keeps one: of its indexes the sweep rebuilt none. -/
def refreshDatabase (keepsVersion : Bool) (db : String) : HookScript Unit := do
  let clean ← sweepCollations stderr db
  Prog.when clean do
    let collations ← listingFile stderr (.collations db) (Volume.mismatchedCollations db)
    Prog.each collations fun collation =>
      orTrue (.refresh db collation) (Volume.refreshVersion db collation)
    Prog.when keepsVersion (orTrue (.refreshDatabase db) (Volume.refreshDatabaseVersion db))

/-- A server keeps a version of the default collation from 15 on.  One that is not asked counts as older. -/
def refreshCollations (pgMajor : Nat) : HookScript Unit := do
  let known ← Prog.bestEffort (Prog.ask .serverVersion ())
  forDatabases .collation (refreshDatabase stderr (known && 15 ≤ pgMajor))
  orTrue (.remove .needsCollationRefresh) (Volume.remove .needsCollationRefresh)

/-- **The background job.**  The locale branch goes first, since readiness waits on it. -/
def backgroundReindex (pgMajor : Nat) : HookScript Unit := do
  let v ← Prog.get
  Prog.when (v.files .needsReindex || v.files .needsReindexAll || v.files .needsCollationRefresh) do
    Prog.ask .pgIsready ()
    orTrue (.stage .reindexing) (Volume.setStage .reindexing)
    let v ← Prog.get
    Prog.when (v.files .needsReindex) reindexLocale
    let v ← Prog.get
    Prog.when (v.files .needsReindexAll) (reindexAll pgMajor)
    let v ← Prog.get
    Prog.when (v.files .needsCollationRefresh) (refreshCollations stderr pgMajor)
    orTrue (.stage .ready) (Volume.setStage .ready)

end Listings

/-! ## The pods of a restore -/

/-- **The volume of a restore, and whether the init container of its pod has finished.** -/
structure Pod where
  volume : Volume
  isSetUp : Bool := false

/-- **What happens to it**: a pod starts, its init container runs; the container with the server starts, its
    background job runs; a client changes the databases; the operator retires the restore.  Each script runs
    to its end or is cut off.  `stderr` is what the listings of the background job say besides. -/
inductive PodEvent where
  | setup (ρ : SetupCall → Reply PgError)
  | started (stderr : HookCall → List String) (ρ : HookCall → Reply Unit)
  | written (databases : List Database)
  | outgoing

section Pod

variable (pgMajor : Nat) (isReadOnly : Bool)

def Pod.step (p : Pod) : PodEvent → Pod
  | .setup ρ =>
    match setupAuth isReadOnly ρ { volume := p.volume } with
    | .done _ s => { volume := s.volume, isSetUp := true }
    | .failed _ s => { volume := s.volume }
    | .halted s => { volume := s.volume }
  | .started stderr ρ =>
    if p.isSetUp then { p with volume := (backgroundReindex stderr pgMajor ρ p.volume).state } else p
  | .written databases =>
    if p.isSetUp then { p with volume := { p.volume with databases := databases } } else p
  | .outgoing => { p with volume := p.volume.setStage .outgoing }

/-- **The readiness probe**, while the server answers. -/
def Pod.isReady (p : Pod) : Bool := p.isSetUp && !p.volume.files .needsReindex

end Pod

end Startup

end RestoreOperator

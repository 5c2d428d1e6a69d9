import RestoreOperator.Objects.Context

/-!
# `Replica.Snapshots` — choosing a snapshot and sizing its restore
-/

namespace RestoreOperator

/-- An ASCII letter. -/
def isAsciiAlphabetic (c : Char) : Bool :=
  ('a' ≤ c && c ≤ 'z') || ('A' ≤ c && c ≤ 'Z')

/-- A Windows path, written the Unix way: `C:\data` is `/C/data`. -/
def normalizeWindowsPath (path : String) : String :=
  let slashed := path.toList.map fun c => if c = '\\' then '/' else c
  match slashed with
  | drive :: ':' :: rest =>
    if isAsciiAlphabetic drive then String.ofList ('/' :: drive :: rest)
    else String.ofList slashed
  | _ => String.ofList slashed

/-- The value of a tag. -/
def Snapshot.tag (s : Snapshot) (k : String) : Option String :=
  (s.tags.find? fun t => t.1 == k).map (·.2)

/-- A pattern that is absent matches everything. -/
def optionalGlob (ctx : Context) (pattern : Option String) (text : String) : Bool :=
  match pattern with
  | none => true
  | some p => ctx.globMatches p text

/-- Whether a snapshot passes a filter.  Kopia stores user tags with a `tag:` prefix, so both the
    bare and the prefixed key are tried. -/
def SnapshotFilter.accepts (ctx : Context) (filter : SnapshotFilter) (snap : Snapshot) : Bool :=
  (match filter.tags with
    | none => true
    | some required => required.all fun (k, v) =>
        snap.tag k == some v || snap.tag ("tag:" ++ k) == some v) &&
  optionalGlob ctx filter.hostPattern snap.host &&
  optionalGlob ctx filter.descriptionPattern snap.description &&
  optionalGlob ctx filter.pathPattern (normalizeWindowsPath snap.path)

/-- The snapshots a filter lets through. -/
def filterSnapshots (ctx : Context) (snapshots : List Snapshot) (filter : Option SnapshotFilter) :
    List Snapshot :=
  match filter with
  | none => snapshots
  | some f => snapshots.filter (f.accepts ctx)

/-- The snapshot with the greatest start time, as a text; the last of them when several agree. -/
def latestSnapshot (snapshots : List Snapshot) : Option Snapshot :=
  snapshots.foldl
    (fun best s =>
      match best with
      | none => some s
      | some b => if s.startTime < b.startTime then some b else some s)
    none

/-- The text from the first `[` to the last `]`. -/
def bracketed (raw : String) : Option String :=
  let afterOpen := raw.toList.dropWhile (· ≠ '[')
  let kept := (afterOpen.reverse.dropWhile (· ≠ ']')).reverse
  if kept = [] then none else some (String.ofList kept)

/-- **Parse the output of a snapshot-list Job**, skipping what it prints around the JSON array. -/
def parseSnapshotListOutput (ctx : Context) (raw : String) : Except String (List Snapshot) :=
  match bracketed raw with
  | some json => ctx.parseSnapshots json
  | none => ctx.parseSnapshots "[]"

/-- **Pick the snapshot to restore**: the one canopy asked for, or the latest that the filter lets
    through. -/
def pickSnapshot (ctx : Context) (replica : Replica) (all : List Snapshot) : Option Snapshot :=
  if replica.spec.canopySource.isSome then
    match replica.status.canopyDesiredSnapshotId with
    | none => none
    | some id => all.find? fun s => s.id == id
  else latestSnapshot (filterSnapshots ctx all replica.spec.snapshotFilter)

/-- **The size of a restore's volume.**  It fails when the snapshot does not fit under the maximum;
    a floor above the maximum merely yields to it. -/
def computeStorageSize (snapshotBytes : ℚ) (overrideSize : Option Quantity) (maximum : Quantity)
    (writesIntoRestore : Bool) (measuredSchemaDelta : Option ℚ) : Except Error ℚ :=
  let maxPvcSize := maximum.parsed.getD (2048 * gibibyte)
  let computed :=
    if writesIntoRestore then
      let tenPercent := snapshotBytes * (1 / 10)
      let measured := measuredSchemaDelta.getD 0
      let overhead := if measured > tenPercent then measured else tenPercent
      snapshotBytes + overhead + 5 * gibibyte
    else snapshotBytes * (11 / 10)
  if computed > maxPvcSize then .error (.storageLimitExceeded computed maxPvcSize)
  else
    let chosen :=
      match overrideSize.bind Quantity.parsed with
      | some floor => if floor > computed then floor else computed
      | none => computed
    .ok (if chosen > maxPvcSize then maxPvcSize else chosen)

/-- Restores of this replica are written to after they are restored. -/
def ReplicaSpec.writesIntoRestore (spec : ReplicaSpec) : Bool :=
  spec.persistentSchemas.isSome || spec.migrateTo.isSome

end RestoreOperator

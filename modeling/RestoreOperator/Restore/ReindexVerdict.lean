import RestoreOperator.Objects.ReindexWatch

/-!
# `Restore.ReindexVerdict` — the watches that all restores share

The reconciles of all restores consult their watches in one map.  A call reads the clock and the map, and
may then wait for a database; other calls go on in the meantime.  When the answer is there, the call drops
the abandoned watches of all restores from the map and puts its own in.

What was called, asked and returned is logged, newest first, for stating results.
-/

namespace RestoreOperator

variable {T : Type} [Ring T] [LinearOrder T]

/-- The watches of all restores, by their keys. -/
abbrev Watches (T : Type) := List (String × Watch T)

/-- The watch of a restore. -/
def Watches.get (watches : Watches T) (key : String) : Option (Watch T) :=
  (watches.find? fun e => e.1 == key).map (·.2)

/-- Drop the abandoned watches, and put one in. -/
def Watches.keep (watches : Watches T) (now : T) (key : String) (watch : Watch T) : Watches T :=
  (key, watch) :: watches.filter fun e => e.1 ≠ key && !e.2.isAbandoned now

/-- Forget the watch of a restore. -/
def Watches.forget (watches : Watches T) (key : String) : Watches T :=
  watches.filter fun e => e.1 ≠ key

/-- A call that waits for its database: when it read the clock, and the watch it found. -/
structure Asking (T : Type) where
  key : String
  now : T
  previous : Option (Watch T)

/-- What a database answers about a reindex: an error, no reindex, or how far it is. -/
abbrev ReindexAnswer := Except Error (Option String)

/-- What happened. -/
inductive WatchEntry (T : Type) where
  | called (key : String) (now : T)
  | queried (key : String) (now : T) (answer : ReindexAnswer)
  | returned (key : String) (now : T) (verdict : Verdict)

/-- **The map of watches and the calls under way.** -/
structure Watching (T : Type) where
  watches : Watches T := []
  asking : List (Asking T) := []
  log : List (WatchEntry T) := []

/-- What one call does next. -/
inductive WatchEvent (T : Type) where
  /-- `reindex_verdict` is called. -/
  | call (key : String) (now : T)
  /-- The answer of the database is there. -/
  | answer (key : String) (answer : ReindexAnswer)
  /-- A watch is forgotten. -/
  | forget (key : String)

/-- The verdict of a watch that was looked at a short while ago stands. -/
def standingVerdict (previous : Option (Watch T)) (now : T) : Option Verdict :=
  match previous with
  | some previous => if previous.needsObservation now then none else some (previous.verdict now)
  | none => none

/-- **The start of a call**: the last answer stands for a while, and then the database is asked. -/
def Watching.call (s : Watching T) (key : String) (now : T) : Watching T :=
  let previous := s.watches.get key
  match standingVerdict previous now with
  | some verdict => { s with log := .returned key now verdict :: .called key now :: s.log }
  | none =>
    { s with
      asking := ⟨key, now, previous⟩ :: s.asking
      log := .called key now :: s.log }

/-- The watch that an answer makes.  A failed ask counts as no change once there is an answer to fall back
    on. -/
def answeredWatch (previous : Option (Watch T)) (answer : ReindexAnswer) (now : T) : Option (Watch T) :=
  match answer with
  | .ok progress => some (Watch.record previous progress now)
  | .error _ => previous.map (·.unobserved now)

/-- **The end of a call**: its verdict, and the watch it leaves.  Without a watch it is not reindexing. -/
def Watching.conclude (s : Watching T) (asking : Asking T) (answer : ReindexAnswer) : Watching T :=
  let log := .queried asking.key asking.now answer :: s.log
  match answeredWatch asking.previous answer asking.now with
  | some watch =>
    { s with
      watches := s.watches.keep asking.now asking.key watch
      log := .returned asking.key asking.now (watch.verdict asking.now) :: log }
  | none => { s with log := .returned asking.key asking.now .notReindexing :: log }

section Calls

variable {s : Watching T} {key : String} {now : T} {asking : Asking T} {answer : ReindexAnswer}

theorem Watching.call_stands {verdict : Verdict}
    (h : standingVerdict (s.watches.get key) now = some verdict) :
    s.call key now = { s with log := .returned key now verdict :: .called key now :: s.log } := by
  simp only [Watching.call, h]

theorem Watching.call_asks (h : standingVerdict (s.watches.get key) now = none) :
    s.call key now =
      { s with
        asking := ⟨key, now, s.watches.get key⟩ :: s.asking
        log := .called key now :: s.log } := by
  simp only [Watching.call, h]

theorem Watching.conclude_some {watch : Watch T}
    (h : answeredWatch asking.previous answer asking.now = some watch) :
    s.conclude asking answer =
      { s with
        watches := s.watches.keep asking.now asking.key watch
        log := .returned asking.key asking.now (watch.verdict asking.now) ::
          .queried asking.key asking.now answer :: s.log } := by
  simp only [Watching.conclude, h]

theorem Watching.conclude_none (h : answeredWatch asking.previous answer asking.now = none) :
    s.conclude asking answer =
      { s with
        log := .returned asking.key asking.now .notReindexing ::
          .queried asking.key asking.now answer :: s.log } := by
  simp only [Watching.conclude, h]

end Calls

/-- **One event.** -/
def Watching.step (s : Watching T) : WatchEvent T → Watching T
  | .call key now => s.call key now
  | .answer key answer =>
    match s.asking.find? fun a => a.key == key with
    | some asking => { s with asking := s.asking.eraseP fun a => a.key == key }.conclude asking answer
    | none => s
  | .forget key => { s with watches := s.watches.forget key }

end RestoreOperator

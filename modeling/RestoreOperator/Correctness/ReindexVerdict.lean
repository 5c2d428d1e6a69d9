import Mathlib.Tactic.Linarith
import RestoreOperator.Calls.Log
import RestoreOperator.Calls.Runs
import RestoreOperator.Restore.Phases
import RestoreOperator.Restore.ReindexVerdict

/-!
# `Correctness.ReindexVerdict` — the watch of a restore stands for all that was seen

A watch has the last answer of the database, when it was asked last, and since when it has answered the same.
From these three the verdict comes out as it would from all the answers there were.

Any call may drop the watch of another restore that was not looked at for ten minutes.  A restore that is
looked at every nine minutes does not lose its watch: it is asked again within a minute of a look, so at the
next look its watch is less than ten minutes old.
-/

namespace RestoreOperator

open Calls

variable {T : Type} [CommRing T] [LinearOrder T]

/-! ## The whole history -/

/-- The queries of a restore, with their answers. -/
def queriesOf (key : String) : List (WatchEntry T) → List (T × ReindexAnswer)
  | [] => []
  | .queried k now answer :: past =>
    if k = key then (now, answer) :: queriesOf key past else queriesOf key past
  | _ :: past => queriesOf key past

/-- The queries that succeeded, and what they saw. -/
def successes : List (T × ReindexAnswer) → List (T × Option String)
  | [] => []
  | (now, .ok progress) :: past => (now, progress) :: successes past
  | (_, .error _) :: past => successes past

/-- When the run of equal answers that an answer ends began. -/
def runStart (since : T) (progress : Option String) : List (T × Option String) → T
  | [] => since
  | (now, seen) :: past => if seen = progress then runStart now progress past else since

/-- **The verdict by all queries**, the newest first. -/
def historyVerdict (queries : List (T × ReindexAnswer)) (now : T) : Verdict :=
  match successes queries with
  | [] => .notReindexing
  | (seenAt, progress) :: past =>
    if progress.isNone then .notReindexing
    else if now - runStart seenAt progress past > stallTimeout then .stalled
    else .wait

/-- **What is to be true of an entry of the log**: a verdict on the restore follows from its history, and
    once a query has succeeded, the next ones keep a distance. -/
def FollowsHistory (key : String) (e : WatchEntry T) (past : List (WatchEntry T)) : Prop :=
  match e with
  | .called _ _ => True
  | .queried k now _ =>
    k = key → successes (queriesOf key past) ≠ [] →
      ∀ query ∈ queriesOf key past, now - query.1 ≥ observeInterval
  | .returned k now verdict => k = key → verdict = historyVerdict (queriesOf key past) now

/-! ## The conditions -/

/-- When restores of a kind were called, the newest first. -/
def callsOf (kind : String → Bool) : List (WatchEntry T) → List T
  | [] => []
  | .called k now :: past => if kind k then now :: callsOf kind past else callsOf kind past
  | _ :: past => callsOf kind past

/-- The time of the last call of all. -/
def lastCall (log : List (WatchEntry T)) : Option T := (callsOf (fun _ => true) log).head?

/-- The time of the last call for a restore. -/
def lastCallOf (key : String) (log : List (WatchEntry T)) : Option T := (callsOf (· == key) log).head?

/-- The most time between two calls for the restore. -/
def longestPause : Duration := 9 * 60

/-- **The restore is looked at every nine minutes**: calls come in the order of time, those for the restore
    one at a time and no later than that, and its watch is not forgotten. -/
def Polled (key : String) (s : Watching T) : WatchEvent T → Prop
  | .call k now =>
    (lastCall s.log).all (· ≤ now) ∧
      (k = key → (s.asking.all fun a => a.key ≠ key) ∧
        (lastCallOf key s.log).all fun t => now - t ≤ longestPause)
  | .answer _ _ => True
  | .forget k => k ≠ key

instance (key : String) (s : Watching T) : ∀ e, Decidable (Polled key s e)
  | .call k now =>
    inferInstanceAs (Decidable ((lastCall s.log).all (· ≤ now) ∧
      (k = key → (s.asking.all fun a => a.key ≠ key) ∧
        (lastCallOf key s.log).all fun t => now - t ≤ longestPause)))
  | .answer _ _ => inferInstanceAs (Decidable True)
  | .forget k => inferInstanceAs (Decidable (k ≠ key))

/-! ## The watch that a history makes -/

/-- The watch after all queries. -/
def watchOf : List (T × ReindexAnswer) → Option (Watch T)
  | [] => none
  | (now, answer) :: past => answeredWatch (watchOf past) answer now

omit [CommRing T] [LinearOrder T] in
/-- **A watch has the last answer, and the start of its run.** -/
theorem watchOf_spec (queries : List (T × ReindexAnswer)) :
    watchOf queries = none ∧ successes queries = [] ∨
      ∃ w seenAt past, watchOf queries = some w ∧ successes queries = (seenAt, w.progress) :: past ∧
        w.changedAt = runStart seenAt w.progress past := by
  induction queries with
  | nil => exact Or.inl ⟨rfl, rfl⟩
  | cons query queries ih =>
    obtain ⟨now, answer⟩ := query
    cases answer with
    | error e =>
      rcases ih with ⟨hnone, hnever⟩ | ⟨w, seenAt, past, hwatch, hsuccesses, hchanged⟩
      · left
        refine ⟨?_, hnever⟩
        rw [watchOf, hnone]
        rfl
      · right
        refine ⟨w.unobserved now, seenAt, past, ?_, hsuccesses, hchanged⟩
        rw [watchOf, hwatch]
        rfl
    | ok progress =>
      right
      refine ⟨Watch.record (watchOf queries) progress now, now, successes queries, rfl, rfl, ?_⟩
      rcases ih with ⟨hnone, hnever⟩ | ⟨w, seenAt, past, hwatch, hsuccesses, hchanged⟩
      · rw [hnone, hnever]
        rfl
      · rw [hwatch, hsuccesses]
        show (if w.progress = progress then w.changedAt else now) =
          if w.progress = progress then runStart seenAt progress past else now
        split
        · rename_i hsame
          rw [hchanged, hsame]
        · rfl

/-- **The verdict of the watch is the verdict by all queries.** -/
theorem verdict_watchOf {queries : List (T × ReindexAnswer)} {w : Watch T}
    (h : watchOf queries = some w) (now : T) : w.verdict now = historyVerdict queries now := by
  rcases watchOf_spec queries with ⟨hnone, _⟩ | ⟨w', seenAt, past, hwatch, hsuccesses, hchanged⟩
  · rw [hnone] at h
    cases h
  · rw [h] at hwatch
    obtain rfl := Option.some.inj hwatch
    unfold historyVerdict Watch.verdict
    rw [hsuccesses, hchanged]

theorem historyVerdict_of_none {queries : List (T × ReindexAnswer)} (h : watchOf queries = none)
    (now : T) : historyVerdict queries now = .notReindexing := by
  rcases watchOf_spec queries with ⟨_, hnever⟩ | ⟨w, _, _, hwatch, _⟩
  · unfold historyVerdict
    rw [hnever]
  · rw [h] at hwatch
    cases hwatch

/-! ## The shared map -/

section Map

variable {watches : Watches T} {key : String}

/-- Every watch of the restore in the map is the one its queries make. -/
def Holds (key : String) (watches : Watches T) (watch : Option (Watch T)) : Prop :=
  ∀ e ∈ watches, e.1 = key → watch = some e.2

omit [CommRing T] [LinearOrder T] in
theorem get_eq_some {w : Watch T} (h : watches.get key = some w) : ∃ e ∈ watches, e.1 = key ∧ e.2 = w := by
  obtain ⟨e, hfound, rfl⟩ := Option.map_eq_some_iff.mp h
  have hkey := List.find?_some hfound
  exact ⟨e, List.mem_of_find?_eq_some hfound, by simpa using hkey, rfl⟩

omit [CommRing T] [LinearOrder T] in
theorem get_eq_none (h : watches.get key = none) : ∀ e ∈ watches, e.1 ≠ key := by
  intro e he hkey
  have hnone := Option.map_eq_none_iff.mp h
  exact List.find?_eq_none.mp hnone e he (by simpa using hkey)

omit [CommRing T] [LinearOrder T] in
/-- What is in the map for the restore is its watch, or nothing is. -/
theorem Holds.get {watch : Option (Watch T)} (h : Holds key watches watch) :
    watches.get key = watch ∨ watches.get key = none := by
  cases hget : watches.get key with
  | none => exact Or.inr rfl
  | some w =>
    obtain ⟨e, he, hkey, rfl⟩ := get_eq_some hget
    exact Or.inl (h e he hkey).symm

omit [CommRing T] [LinearOrder T] in
theorem Holds.filter {watch : Option (Watch T)} (h : Holds key watches watch)
    (p : String × Watch T → Bool) : Holds key (watches.filter p) watch :=
  fun e he => h e (List.mem_filter.mp he).1

omit [CommRing T] [LinearOrder T] in
theorem mem_of_get {watch : Option (Watch T)} {w : Watch T} (h : Holds key watches watch)
    (hwatch : watch = some w) (hget : watches.get key = watch) : (key, w) ∈ watches := by
  rw [hwatch] at hget
  obtain ⟨e, he, rfl, rfl⟩ := get_eq_some hget
  exact he

omit [CommRing T] [LinearOrder T] in
theorem get_of_mem {watch : Option (Watch T)} {w : Watch T} (h : Holds key watches watch)
    (hmem : (key, w) ∈ watches) : watches.get key = watch := by
  rcases h.get with hget | hnone
  · exact hget
  · exact absurd rfl (get_eq_none hnone _ hmem)

/-- The restore's own watch is put in. -/
theorem keep_self (now : T) (w : Watch T) :
    (watches.keep now key w).get key = some w ∧ Holds key (watches.keep now key w) (some w) := by
  constructor
  · simp [Watches.get, Watches.keep]
  · intro e he hkey
    rcases List.mem_cons.mp he with rfl | he
    · rfl
    · have hother := (List.mem_filter.mp he).2
      simp [hkey] at hother

/-- **Another restore's call** leaves the watch of this one, or drops it as abandoned. -/
theorem keep_other {k : String} (hk : k ≠ key) {watch : Option (Watch T)} (h : Holds key watches watch)
    (now : T) (w : Watch T) :
    Holds key (watches.keep now k w) watch ∧
      (watches.get key = watch → (watches.keep now k w).get key = watch ∨
        ∃ own, watch = some own ∧ now - own.observedAt > abandonedAfter) := by
  have hholds : Holds key (watches.keep now k w) watch := by
    intro e he hkey
    rcases List.mem_cons.mp he with rfl | he
    · exact absurd hkey hk
    · exact h.filter _ e he hkey
  refine ⟨hholds, fun hget => ?_⟩
  cases hwatch : watch with
  | none =>
    left
    rw [hwatch] at hholds
    rcases hholds.get with hnone | hnone <;> exact hnone
  | some own =>
    by_cases habandoned : now - own.observedAt > abandonedAfter
    · exact Or.inr ⟨own, rfl, habandoned⟩
    · left
      rw [← hwatch]
      apply get_of_mem hholds
      apply List.mem_cons_of_mem
      rw [List.mem_filter]
      refine ⟨mem_of_get h hwatch hget, ?_⟩
      simp [Watch.isAbandoned, habandoned, hk.symm]

end Map

/-! ## The invariant -/

/-- The calls for the restore that are under way. -/
def callsUnderWay (key : String) (s : Watching T) : List (Asking T) :=
  s.asking.filter fun a => a.key == key

/-- **Between two calls** the restore was asked within a minute of the last one; and its watch is in the map,
    unless the next call is overdue. -/
structure Idle (key : String) (s : Watching T) : Prop where
  recent : ∀ w, watchOf (queriesOf key s.log) = some w →
    ∃ t, lastCallOf key s.log = some t ∧ t - w.observedAt < observeInterval
  stored : s.watches.get key = watchOf (queriesOf key s.log) ∨
    ∃ t c, lastCallOf key s.log = some t ∧ lastCall s.log = some c ∧ longestPause < c - t

/-- **During a call** the restore's watch is in hand, and its last query is long enough ago. -/
structure Busy (key : String) (s : Watching T) (asking : Asking T) : Prop where
  key_eq : asking.key = key
  previous : asking.previous = watchOf (queriesOf key s.log)
  called : lastCallOf key s.log = some asking.now
  later : ∀ query ∈ queriesOf key s.log, query.1 ≤ asking.now
  rested : ∀ w, asking.previous = some w → asking.now - w.observedAt ≥ observeInterval

/-- **What is true of the watches at any time.** -/
structure Watched (key : String) (s : Watching T) : Prop where
  logged : Logged (FollowsHistory key) s.log
  inOrder : ∀ a ∈ s.asking, ∃ c, lastCall s.log = some c ∧ a.now ≤ c
  past : ∀ query ∈ queriesOf key s.log, ∃ c, lastCall s.log = some c ∧ query.1 ≤ c
  newest : ∀ w, watchOf (queriesOf key s.log) = some w → ∀ query ∈ queriesOf key s.log,
    query.1 ≤ w.observedAt
  holds : Holds key s.watches (watchOf (queriesOf key s.log))
  state : callsUnderWay key s = [] ∧ Idle key s ∨ ∃ a, callsUnderWay key s = [a] ∧ Busy key s a

theorem watched_initial (key : String) : Watched (T := T) key {} where
  logged := trivial
  inOrder := fun _ h => absurd h List.not_mem_nil
  past := fun _ h => absurd h List.not_mem_nil
  newest := fun _ h => nomatch h
  holds := fun _ h => absurd h List.not_mem_nil
  state := Or.inl ⟨rfl, fun _ h => (nomatch h), Or.inl rfl⟩

/-! ## Calls that end -/

section Asked

variable {s : Watching T} {key : String}

omit [CommRing T] [LinearOrder T] in
/-- The call for the restore that is under way is the one that is answered. -/
theorem find_asking (h : callsUnderWay key s = []) : (s.asking.find? fun a => a.key == key) = none := by
  rw [← List.head?_filter]
  unfold callsUnderWay at h
  rw [h]
  rfl

omit [CommRing T] [LinearOrder T] in
theorem find_asking_busy {a : Asking T} (h : callsUnderWay key s = [a]) :
    (s.asking.find? fun a => a.key == key) = some a := by
  rw [← List.head?_filter]
  unfold callsUnderWay at h
  rw [h]
  rfl

omit [CommRing T] [LinearOrder T] in
theorem filter_eraseP_self (asking : List (Asking T)) (p : Asking T → Bool) :
    (asking.eraseP p).filter p = (asking.filter p).tail := by
  induction asking with
  | nil => rfl
  | cons a asking ih =>
    by_cases ha : p a = true
    · rw [List.eraseP_cons_of_pos ha, List.filter_cons_of_pos ha]
      rfl
    · rw [List.eraseP_cons_of_neg ha, List.filter_cons_of_neg ha, List.filter_cons_of_neg ha]
      exact ih

omit [CommRing T] [LinearOrder T] in
theorem filter_eraseP_other (asking : List (Asking T)) {p q : Asking T → Bool}
    (hpq : ∀ a, p a = true → ¬ q a = true) : (asking.eraseP p).filter q = asking.filter q := by
  induction asking with
  | nil => rfl
  | cons a asking ih =>
    by_cases ha : p a = true
    · rw [List.eraseP_cons_of_pos ha, List.filter_cons_of_neg (hpq a ha)]
    · rw [List.eraseP_cons_of_neg ha, List.filter_cons, List.filter_cons, ih]

end Asked

/-! ## The steps -/

section Steps

variable {s : Watching T} {key : String}

theorem standingVerdict_eq_some {previous : Option (Watch T)} {now : T} {v : Verdict}
    (h : standingVerdict previous now = some v) :
    ∃ w, previous = some w ∧ now - w.observedAt < observeInterval ∧ v = w.verdict now := by
  cases previous with
  | none => cases h
  | some w =>
    unfold standingVerdict at h
    dsimp only at h
    split at h
    · cases h
    · rename_i hfresh
      refine ⟨w, rfl, ?_, (Option.some.inj h).symm⟩
      simpa [Watch.needsObservation] using hfresh

theorem standingVerdict_eq_none {previous : Option (Watch T)} {now : T}
    (h : standingVerdict previous now = none) {w : Watch T} (hw : previous = some w) :
    now - w.observedAt ≥ observeInterval := by
  rw [hw] at h
  unfold standingVerdict at h
  dsimp only at h
  split at h
  · rename_i hstale
    simpa [Watch.needsObservation] using hstale
  · cases h

omit [LinearOrder T] in
/-- What the three lengths of time are in seconds. -/
theorem seconds : ((observeInterval : Duration) : T) = 60 ∧ ((longestPause : Duration) : T) = 540 ∧
    ((abandonedAfter : Duration) : T) = 600 := by
  refine ⟨?_, ?_, ?_⟩
  · norm_num [observeInterval]
  · norm_num [longestPause]
  · norm_num [abandonedAfter]

variable [IsStrictOrderedRing T]

/-- **The frame of another restore's step**: the history of this one is as it was, and its watch too, unless
    it was abandoned. -/
theorem Watched.other {s' : Watching T} (h : Watched key s)
    (hlogged : Logged (FollowsHistory key) s'.log)
    (hqueries : queriesOf key s'.log = queriesOf key s.log)
    (hcalls : lastCallOf key s'.log = lastCallOf key s.log)
    (hclock : ∀ c, lastCall s.log = some c → ∃ c', lastCall s'.log = some c' ∧ c ≤ c')
    (hunder : callsUnderWay key s' = callsUnderWay key s)
    (hinOrder : ∀ a ∈ s'.asking, ∃ c, lastCall s'.log = some c ∧ a.now ≤ c)
    (hholds : Holds key s'.watches (watchOf (queriesOf key s.log)))
    (hget : s.watches.get key = watchOf (queriesOf key s.log) →
      s'.watches.get key = watchOf (queriesOf key s.log) ∨
        ∃ own c, watchOf (queriesOf key s.log) = some own ∧ lastCall s'.log = some c ∧
          abandonedAfter < c - own.observedAt) : Watched key s' where
  logged := hlogged
  inOrder := hinOrder
  past := by
    intro query hquery
    rw [hqueries] at hquery
    obtain ⟨c, hc, hle⟩ := h.past query hquery
    obtain ⟨c', hc', hle'⟩ := hclock c hc
    exact ⟨c', hc', hle.trans hle'⟩
  newest := by
    rw [hqueries]
    exact h.newest
  holds := by
    rw [hqueries]
    exact hholds
  state := by
    rw [hunder]
    rcases h.state with ⟨hnone, hidle⟩ | ⟨a, hone, hbusy⟩
    · refine Or.inl ⟨hnone, ?_, ?_⟩
      · rw [hqueries, hcalls]
        exact hidle.recent
      · rw [hqueries, hcalls]
        rcases hidle.stored with hstored | ⟨t, c, ht, hc, hover⟩
        · rcases hget hstored with hkept | ⟨own, c, hown, hc, habandoned⟩
          · exact Or.inl hkept
          · -- it was looked at within a minute of the last call
            obtain ⟨t, ht, hrecent⟩ := hidle.recent own hown
            refine Or.inr ⟨t, c, ht, hc, ?_⟩
            obtain ⟨hminute, hpause, hten⟩ := seconds (T := T)
            rw [hminute] at hrecent
            rw [hten] at habandoned
            rw [hpause]
            linarith
        · obtain ⟨c', hc', hle⟩ := hclock c hc
          exact Or.inr ⟨t, c', ht, hc', lt_of_lt_of_le hover (sub_le_sub_right hle t)⟩
    · refine Or.inr ⟨a, hone, hbusy.key_eq, ?_, ?_, ?_, hbusy.rested⟩
      · rw [hqueries]
        exact hbusy.previous
      · rw [hcalls]
        exact hbusy.called
      · rw [hqueries]
        exact hbusy.later

/-- **The restore is called**: the watch it finds is its own, which stands, or the database is asked. -/
theorem Watched.called_own (h : Watched key s) {now : T} (hclock : ∀ c, lastCall s.log = some c → c ≤ now)
    (hearlier : ∀ a ∈ s.asking, a.now ≤ now) (hfree : callsUnderWay key s = [])
    (hpause : ∀ t, lastCallOf key s.log = some t → now - t ≤ longestPause) :
    Watched key (s.call key now) := by
  rcases h.state with ⟨_, hidle⟩ | ⟨a, hone, _⟩
  swap
  · rw [hfree] at hone
    cases hone
  -- the call is not overdue, so the watch is there
  have hget : s.watches.get key = watchOf (queriesOf key s.log) := by
    rcases hidle.stored with hstored | ⟨t, c, ht, hc, hover⟩
    · exact hstored
    · have hle := sub_le_sub_right (hclock c hc) t
      exact absurd (hover.trans_le hle) (not_lt.mpr (hpause t ht))
  have hpast : ∀ query ∈ queriesOf key s.log, query.1 ≤ now := by
    intro query hquery
    obtain ⟨c, hc, hle⟩ := h.past query hquery
    exact hle.trans (hclock c hc)
  have hcalled : ∀ log : List (WatchEntry T), lastCallOf key (.called key now :: log) = some now := by
    intro log
    simp [lastCallOf, callsOf]
  cases hstanding : standingVerdict (s.watches.get key) now with
  | some verdict =>
    rw [Watching.call_stands hstanding]
    rw [hget] at hstanding
    obtain ⟨w, hw, hrecent, hverdict⟩ := standingVerdict_eq_some hstanding
    refine ⟨⟨fun _ => ?_, trivial, h.logged⟩, fun a ha => ⟨now, rfl, hearlier a ha⟩,
      fun query hquery => ⟨now, rfl, hpast query hquery⟩, h.newest, h.holds,
      Or.inl ⟨hfree, ?_, Or.inl hget⟩⟩
    · rw [hverdict]
      exact verdict_watchOf hw now
    · intro w' hw'
      refine ⟨now, hcalled s.log, ?_⟩
      have heq : some w = some w' := hw.symm.trans hw'
      rw [← Option.some.inj heq]
      exact hrecent
  | none =>
    rw [Watching.call_asks hstanding]
    refine ⟨⟨trivial, h.logged⟩, fun a ha => ⟨now, rfl, ?_⟩,
      fun query hquery => ⟨now, rfl, hpast query hquery⟩, h.newest, h.holds,
      Or.inr ⟨⟨key, now, s.watches.get key⟩, ?_, rfl, hget, hcalled s.log, hpast,
        fun w hw => standingVerdict_eq_none hstanding hw⟩⟩
    · rcases List.mem_cons.mp ha with rfl | ha
      · exact le_refl now
      · exact hearlier a ha
    · unfold callsUnderWay at hfree ⊢
      rw [List.filter_cons_of_pos (by simp), hfree]

/-- **Another restore is called.** -/
theorem Watched.called_other (h : Watched key s) {k : String} (hk : k ≠ key) {now : T}
    (hclock : ∀ c, lastCall s.log = some c → c ≤ now) (hearlier : ∀ a ∈ s.asking, a.now ≤ now) :
    Watched key (s.call k now) := by
  have hcalls : ∀ log : List (WatchEntry T),
      lastCallOf key (.called k now :: log) = lastCallOf key log := by
    intro log
    simp [lastCallOf, callsOf, hk]
  cases hstanding : standingVerdict (s.watches.get k) now with
  | some verdict =>
    rw [Watching.call_stands hstanding]
    exact h.other ⟨fun heq => absurd heq hk, trivial, h.logged⟩ rfl (hcalls s.log)
      (fun c hc => ⟨now, rfl, hclock c hc⟩) rfl (fun a ha => ⟨now, rfl, hearlier a ha⟩) h.holds Or.inl
  | none =>
    rw [Watching.call_asks hstanding]
    refine h.other ⟨trivial, h.logged⟩ rfl (hcalls s.log) (fun c hc => ⟨now, rfl, hclock c hc⟩) ?_ ?_
      h.holds Or.inl
    · exact List.filter_cons_of_neg (by simpa using hk)
    · intro a ha
      rcases List.mem_cons.mp ha with rfl | ha
      · exact ⟨now, rfl, le_refl now⟩
      · exact ⟨now, rfl, hearlier a ha⟩

theorem Watched.call (h : Watched key s) {k : String} {now : T} (hpolled : Polled key s (.call k now)) :
    Watched key (s.call k now) := by
  obtain ⟨hinOrder, hown⟩ := hpolled
  have hclock : ∀ c, lastCall s.log = some c → c ≤ now := by
    intro c hc
    rw [hc] at hinOrder
    simpa using hinOrder
  have hearlier : ∀ a ∈ s.asking, a.now ≤ now := by
    intro a ha
    obtain ⟨c, hc, hle⟩ := h.inOrder a ha
    exact hle.trans (hclock c hc)
  by_cases hk : k = key
  · subst hk
    obtain ⟨hfree, hpause⟩ := hown rfl
    refine h.called_own hclock hearlier ?_ ?_
    · unfold callsUnderWay
      rw [List.filter_eq_nil_iff]
      intro a ha
      have hne := List.all_eq_true.mp hfree a ha
      simpa using hne
    · intro t ht
      rw [ht] at hpause
      simpa using hpause
  · exact h.called_other hk hclock hearlier

omit [CommRing T] [LinearOrder T] [IsStrictOrderedRing T] in
/-- A query that comes back leaves the log of calls as it is, and makes its answer the newest. -/
theorem log_concluded (now : T) (answer : ReindexAnswer) (v : Verdict) (log : List (WatchEntry T))
    {k : String} (hk : k = key) :
    queriesOf key (.returned k now v :: .queried k now answer :: log) =
      (now, answer) :: queriesOf key log := by
  subst hk
  simp [queriesOf]

omit [CommRing T] [LinearOrder T] [IsStrictOrderedRing T] in
theorem log_concluded_other (now : T) (answer : ReindexAnswer) (v : Verdict)
    (log : List (WatchEntry T)) {k : String} (hk : k ≠ key) :
    queriesOf key (.returned k now v :: .queried k now answer :: log) = queriesOf key log := by
  simp [queriesOf, hk]

omit [CommRing T] [LinearOrder T] [IsStrictOrderedRing T] in
theorem answeredWatch_observedAt {previous : Option (Watch T)} {answer : ReindexAnswer} {now : T}
    {w : Watch T} (h : answeredWatch previous answer now = some w) : w.observedAt = now := by
  cases answer with
  | ok progress =>
    rw [← Option.some.inj h]
    rfl
  | error e =>
    obtain ⟨_, _, rfl⟩ := Option.map_eq_some_iff.mp h
    rfl

omit [CommRing T] [LinearOrder T] [IsStrictOrderedRing T] in
/-- The call for the restore that is answered was the only one. -/
theorem callsUnderWay_answered {a : Asking T} (hone : callsUnderWay key s = [a]) :
    (s.asking.eraseP fun a => a.key == key).filter (fun a => a.key == key) = [] := by
  have htail := filter_eraseP_self s.asking fun a => a.key == key
  unfold callsUnderWay at hone
  rw [htail, hone]
  rfl

/-- The query of a call under way keeps its distance from the earlier ones. -/
theorem Watched.distance (h : Watched key s) {a : Asking T} (hbusy : Busy key s a) (answer : ReindexAnswer) :
    FollowsHistory key (.queried a.key a.now answer) s.log := by
  intro _ hsucceeded query hquery
  rcases watchOf_spec (queriesOf key s.log) with ⟨_, hnever⟩ | ⟨w, _, _, hw, _⟩
  · exact absurd hnever hsucceeded
  · have hdistance := hbusy.rested w (hbusy.previous.trans hw)
    have hle := h.newest w hw query hquery
    exact hdistance.trans (sub_le_sub_left hle a.now)

/-- **A call for the restore has ended**, with the verdict of all queries, and the watch they make is the one
    in the map. -/
theorem Watched.concluded (h : Watched key s) {a : Asking T} (hone : callsUnderWay key s = [a])
    (hbusy : Busy key s a) {answer : ReindexAnswer} {watches : Watches T} {v : Verdict}
    (hverdict : v = historyVerdict ((a.now, answer) :: queriesOf key s.log) a.now)
    (hholds : Holds key watches (watchOf ((a.now, answer) :: queriesOf key s.log)))
    (hget : watches.get key = watchOf ((a.now, answer) :: queriesOf key s.log)) :
    Watched key
      { watches := watches
        asking := s.asking.eraseP fun a => a.key == key
        log := .returned a.key a.now v :: .queried a.key a.now answer :: s.log } := by
  have hlog := log_concluded a.now answer v s.log hbusy.key_eq
  have hasked : a ∈ s.asking := by
    have hmem : a ∈ callsUnderWay key s := by simp [hone]
    exact (List.mem_filter.mp hmem).1
  have hseen : ∀ {w : Watch T}, watchOf ((a.now, answer) :: queriesOf key s.log) = some w →
      w.observedAt = a.now := answeredWatch_observedAt
  refine ⟨⟨fun _ => ?_, h.distance hbusy answer, h.logged⟩,
    fun b hb => h.inOrder b (List.mem_of_mem_eraseP hb), ?_, ?_, ?_,
    Or.inl ⟨callsUnderWay_answered hone, ?_, Or.inl ?_⟩⟩
  · rw [hverdict, ← hlog]
    rfl
  · rw [hlog]
    intro query hquery
    rcases List.mem_cons.mp hquery with rfl | hquery
    · exact h.inOrder a hasked
    · exact h.past query hquery
  · rw [hlog]
    intro w hw query hquery
    rw [hseen hw]
    rcases List.mem_cons.mp hquery with rfl | hquery
    · exact le_refl _
    · exact hbusy.later query hquery
  · rw [hlog]
    exact hholds
  · rw [hlog]
    intro w hw
    refine ⟨a.now, hbusy.called, ?_⟩
    rw [hseen hw, sub_self, (seconds (T := T)).1]
    norm_num
  · rw [hlog]
    exact hget

/-- **The restore's own call ends**: its watch is what all queries make of it, the new one included. -/
theorem Watched.answered_own (h : Watched key s) {a : Asking T} (hone : callsUnderWay key s = [a])
    (hbusy : Busy key s a) (answer : ReindexAnswer) :
    Watched key ({ s with asking := s.asking.eraseP fun a => a.key == key }.conclude a answer) := by
  have hwatch : watchOf ((a.now, answer) :: queriesOf key s.log) =
      answeredWatch a.previous answer a.now := by
    rw [hbusy.previous]
    rfl
  cases hanswered : answeredWatch a.previous answer a.now with
  | some w =>
    rw [Watching.conclude_some hanswered]
    have hw : watchOf ((a.now, answer) :: queriesOf key s.log) = some w := hwatch.trans hanswered
    have hkept : (s.watches.keep a.now key w).get key = some w ∧
        Holds key (s.watches.keep a.now key w) (some w) := keep_self a.now w
    refine h.concluded hone hbusy (verdict_watchOf hw a.now) ?_ ?_
    · rw [hw, hbusy.key_eq]
      exact hkept.2
    · rw [hw, hbusy.key_eq]
      exact hkept.1
  | none =>
    rw [Watching.conclude_none hanswered]
    have hw : watchOf ((a.now, answer) :: queriesOf key s.log) = none := hwatch.trans hanswered
    have hnever : watchOf (queriesOf key s.log) = none := by
      rw [← hbusy.previous]
      cases answer with
      | ok progress => cases hanswered
      | error e => exact Option.map_eq_none_iff.mp hanswered
    have hholds := h.holds
    rw [hnever] at hholds
    refine h.concluded hone hbusy (historyVerdict_of_none hw a.now).symm ?_ ?_
    · rw [hw]
      exact hholds
    · rw [hw]
      rcases hholds.get with hget | hget <;> exact hget

/-- **Another restore's call ends.** -/
theorem Watched.answered_other (h : Watched key s) {a : Asking T} {k : String} (hk : k ≠ key)
    (ha : a.key = k) (hasked : a ∈ s.asking) (answer : ReindexAnswer) :
    Watched key ({ s with asking := s.asking.eraseP fun a => a.key == k }.conclude a answer) := by
  subst ha
  have hunder : (s.asking.eraseP fun b => b.key == a.key).filter (fun b => b.key == key) =
      s.asking.filter fun b => b.key == key := by
    apply filter_eraseP_other
    intro b hb
    rw [beq_iff_eq] at hb ⊢
    rw [hb]
    exact hk
  have hinOrder : ∀ b ∈ s.asking.eraseP fun b => b.key == a.key,
      ∃ c, lastCall s.log = some c ∧ b.now ≤ c := fun b hb => h.inOrder b (List.mem_of_mem_eraseP hb)
  cases hanswered : answeredWatch a.previous answer a.now with
  | some w =>
    rw [Watching.conclude_some hanswered]
    obtain ⟨hholds, hget⟩ := keep_other hk h.holds a.now w
    refine h.other ⟨fun heq => absurd heq hk, fun heq => absurd heq hk, h.logged⟩
      (log_concluded_other _ _ _ _ hk) rfl (fun c hc => ⟨c, hc, le_refl c⟩) hunder hinOrder hholds ?_
    intro hstored
    rcases hget hstored with hkept | ⟨own, hown, habandoned⟩
    · exact Or.inl hkept
    · obtain ⟨c, hc, hle⟩ := h.inOrder a hasked
      exact Or.inr ⟨own, c, hown, hc, lt_of_lt_of_le habandoned (sub_le_sub_right hle _)⟩
  | none =>
    rw [Watching.conclude_none hanswered]
    exact h.other ⟨fun heq => absurd heq hk, fun heq => absurd heq hk, h.logged⟩
      (log_concluded_other _ _ _ _ hk) rfl (fun c hc => ⟨c, hc, le_refl c⟩) hunder hinOrder h.holds Or.inl

theorem Watched.forget (h : Watched key s) {k : String} (hk : k ≠ key) :
    Watched key { s with watches := s.watches.forget k } := by
  have hholds : Holds key (s.watches.forget k) (watchOf (queriesOf key s.log)) := h.holds.filter _
  refine h.other h.logged rfl rfl (fun c hc => ⟨c, hc, le_refl c⟩) rfl h.inOrder hholds
    fun hstored => Or.inl ?_
  cases hwatch : watchOf (queriesOf key s.log) with
  | none =>
    rw [hwatch] at hholds
    rcases hholds.get with hget | hget <;> exact hget
  | some own =>
    rw [← hwatch]
    apply get_of_mem hholds
    exact List.mem_filter.mpr ⟨mem_of_get h.holds hwatch hstored, by simpa using hk.symm⟩

/-- **Every step keeps the invariant.** -/
theorem Watched.step (h : Watched key s) {e : WatchEvent T} (hpolled : Polled key s e) :
    Watched key (s.step e) := by
  cases e with
  | call k now => exact h.call hpolled
  | forget k => exact h.forget hpolled
  | answer k answer =>
    unfold Watching.step
    dsimp only
    cases hfound : s.asking.find? fun a => a.key == k with
    | none => exact h
    | some a =>
      have ha : a.key = k := by simpa using List.find?_some hfound
      by_cases hk : k = key
      · subst hk
        rcases h.state with ⟨hnone, _⟩ | ⟨b, hone, hbusy⟩
        · rw [find_asking hnone] at hfound
          cases hfound
        · rw [find_asking_busy hone] at hfound
          rw [← Option.some.inj hfound]
          exact h.answered_own hone hbusy answer
      · exact h.answered_other hk ha (List.mem_of_find?_eq_some hfound) answer

/-- **The verdicts on a restore follow from all its queries**, and its queries keep their distance, however
    the calls for other restores fall between its own, if it is looked at every nine minutes. -/
theorem reindex_verdicts_follow_history (key : String) {events : List (WatchEvent T)}
    (h : Meets Watching.step (Polled key) {} events) :
    ∀ later e past, (runFrom Watching.step {} events).log = later ++ e :: past →
      FollowsHistory key e past := by
  intro later e past hlog
  have hwatched : Watched key (runFrom Watching.step {} events) :=
    run_invariant (I := Watched key) (fun _ _ hpolled hwatched => hwatched.step hpolled)
      (watched_initial key) h
  exact hwatched.logged.at hlog

end Steps

/-- A reindex that stands still is found out between the looks at another restore, though the database does
    not answer every time. -/
def stalledReindex : List (WatchEvent ℤ) :=
  [.call "apps/a" 0, .answer "apps/a" (.ok (some "1 of 4")), .call "apps/b" 20, .call "apps/a" 510,
    .answer "apps/b" (.ok none), .answer "apps/a" (.error (.kube "timed out")), .call "apps/a" 1030,
    .call "apps/b" 1040, .answer "apps/a" (.ok (some "1 of 4")), .answer "apps/b" (.ok none),
    .call "apps/a" 1060, .call "apps/a" 1500, .forget "apps/b",
    .answer "apps/a" (.ok (some "1 of 4")), .call "apps/a" 1810, .answer "apps/a" (.ok (some "1 of 4"))]

theorem stalledReindex_follows_history :
    ((runFrom Watching.step {} stalledReindex).log.head?.any fun e =>
        e matches .returned "apps/a" 1810 .stalled) ∧
      ∀ later e past, (runFrom Watching.step {} stalledReindex).log = later ++ e :: past →
        FollowsHistory "apps/a" e past :=
  ⟨by decide +kernel, reindex_verdicts_follow_history "apps/a" (by decide +kernel)⟩

/-! ## The pass of a restore -/

section Pass

variable {p : RestorePass} {r : Restore} {w w' : World} {v : Verdict}

/-- What the database answers in a pass. -/
def answerOf (p : RestorePass) : ReindexAnswer :=
  match p.replies .observeReindex with
  | .ok => .ok p.reindexProgress
  | .refused e => .error e
  | .lost e => .error e
  | .cut => .error .noApplicationDatabase
  | .cutAfter => .error .noApplicationDatabase

/-- **A pass that asks the database** leaves the watches as the end of a call does, and its verdict. -/
theorem observe_concludes {previous : Option Watch}
    (h : reindexVerdict.observe p r previous p.replies w = .done v w') (s : Watching ℤ)
    (hs : s.watches = w.reindexWatches) :
    (s.conclude ⟨r.name, p.now, previous⟩ (answerOf p)).watches = w'.reindexWatches ∧
      (s.conclude ⟨r.name, p.now, previous⟩ (answerOf p)).log.head? = some (.returned r.name p.now v) := by
  obtain ⟨seen, w₁, hseen, hrest⟩ := Prog.bind_eq_done h
  unfold Prog.attempt Prog.ask Prog.read at hseen
  unfold answerOf
  cases hreply : p.replies .observeReindex <;> rw [hreply] at hseen <;> cases hseen
  case ok =>
    cases hrest
    rw [Watching.conclude_some rfl, hs]
    exact ⟨rfl, rfl⟩
  all_goals
    cases previous with
    | none =>
      cases hrest
      rw [Watching.conclude_none rfl]
      exact ⟨hs, rfl⟩
    | some prev =>
      cases hrest
      rw [Watching.conclude_some rfl, hs]
      exact ⟨rfl, rfl⟩

/-- A call that asks is answered by the database. -/
theorem call_answered {s : Watching ℤ} (hfree : s.asking = []) {key : String} {now : ℤ}
    (h : standingVerdict (s.watches.get key) now = none) (answer : ReindexAnswer) :
    ∃ s' : Watching ℤ, s'.watches = s.watches ∧
      runFrom Watching.step s [.call key now, .answer key answer] =
        s'.conclude ⟨key, now, s.watches.get key⟩ answer := by
  refine ⟨{ s with log := .called key now :: s.log }, rfl, ?_⟩
  rw [runFrom_cons, runFrom_cons, runFrom_nil]
  show (s.call key now).step (.answer key answer) = _
  rw [Watching.call_asks h, hfree]
  simp [Watching.step]

/-- **The verdict of a pass** is that of a call on the same watches which is answered at once, and so are the
    watches it leaves. -/
theorem reindexVerdict_refines (h : reindexVerdict p r p.replies w = .done v w') :
    let s := runFrom Watching.step { watches := w.reindexWatches }
      [.call r.name p.now, .answer r.name (answerOf p)]
    s.watches = w'.reindexWatches ∧ s.log.head? = some (.returned r.name p.now v) := by
  obtain ⟨w₁, w₂, hget, hrest⟩ := Prog.bind_eq_done h
  cases hget
  have hasks : standingVerdict (Watches.get w.reindexWatches r.name) p.now = none →
      reindexVerdict.observe p r (Watches.get w.reindexWatches r.name) p.replies w = .done v w' →
      let s := runFrom Watching.step { watches := w.reindexWatches }
        [.call r.name p.now, .answer r.name (answerOf p)]
      s.watches = w'.reindexWatches ∧ s.log.head? = some (.returned r.name p.now v) := by
    intro hstanding hobserve
    obtain ⟨s, hs, hrun⟩ := call_answered (s := { watches := w.reindexWatches }) rfl hstanding (answerOf p)
    rw [hrun]
    exact observe_concludes hobserve s hs
  unfold Watches.get at hasks
  cases hprevious : (w.reindexWatches.find? fun e => e.1 == r.name).map (·.2) with
  | none =>
    rw [hprevious] at hrest hasks
    exact hasks rfl hrest
  | some prev =>
    rw [hprevious] at hrest hasks
    dsimp only at hrest
    split at hrest
    · rename_i hfresh
      cases hrest
      have hstanding : standingVerdict (Watches.get w.reindexWatches r.name) p.now =
          some (prev.verdict p.now) := by
        unfold Watches.get standingVerdict
        rw [hprevious]
        simpa using hfresh
      rw [runFrom_cons, runFrom_cons, runFrom_nil]
      show ((Watching.call _ r.name p.now).step _).watches = _ ∧ _
      rw [Watching.step, Watching.call_stands hstanding]
      exact ⟨rfl, rfl⟩
    · rename_i hstale
      refine hasks ?_ hrest
      unfold standingVerdict
      simpa using hstale

end Pass

end RestoreOperator

import RestoreOperator.Canopy.Registration

/-!
# `Correctness.Registration` — what is sent names what it is for

A version that passes the check has no character that means something in a target, and is no dot segment.  So
the target is read as it was put together, and tells what it was put together from.
-/

namespace RestoreOperator

open Delimited Hex

/-! ## Texts that may stand in a target -/

/-- A text is no segment that means something of its own, and holds nothing that ends a segment. -/
structure PlainSegment (s : String) : Prop where
  ne_empty : s ≠ ""
  ne_dot : s ≠ "."
  ne_dots : s ≠ ".."
  plain : '/' ∉ s.toList ∧ '?' ∉ s.toList ∧ '#' ∉ s.toList ∧ '&' ∉ s.toList

/-- A text that does not start with a dot is no dot segment. -/
theorem plainSegment_of_head {s : String} (hhead : ∃ c ∈ s.toList.head?, c ≠ '.')
    (hplain : '/' ∉ s.toList ∧ '?' ∉ s.toList ∧ '#' ∉ s.toList ∧ '&' ∉ s.toList) : PlainSegment s := by
  obtain ⟨c, hc, hdot⟩ := hhead
  refine ⟨?_, ?_, ?_, hplain⟩
  · rintro rfl
    cases hc
  · rintro rfl
    exact hdot (Option.some.inj hc).symm
  · rintro rfl
    exact hdot (Option.some.inj hc).symm

theorem plainSegment_version {version : String} (h : isPathSafeVersion version = true) :
    PlainSegment version := by
  obtain ⟨hhead, hall⟩ := Bool.and_eq_true_iff.mp h
  obtain ⟨c, hc, halnum⟩ := (Option.any_eq_true _ _).mp hhead
  have hchars : ∀ x, (x.isAlphanum || x ∈ ['.', '+', '-']) = false → x ∉ version.toList := by
    intro x hx hmem
    rw [List.all_eq_true.mp hall x hmem] at hx
    cases hx
  refine plainSegment_of_head ⟨c, hc, ?_⟩ ⟨?_, ?_, ?_, ?_⟩
  · rintro rfl
    cases halnum
  all_goals exact hchars _ (by decide)

theorem plainSegment_rank {rank : String} (h : isKnownRank rank = true) : PlainSegment rank := by
  have hrank : rank ∈ ["production", "clone", "demo", "test", "dev"] := of_decide_eq_true h
  simp only [List.mem_cons, List.not_mem_nil, or_false] at hrank
  rcases hrank with rfl | rfl | rfl | rfl | rfl
  all_goals constructor <;> decide +kernel

/-- An id holds nothing but hexadecimal digits and hyphens. -/
theorem not_mem_display {c : Char} (hc : c ∉ '-' :: alphabet) (u : Uuid) : c ∉ u.display.toList := by
  intro hmem
  rcases Uuid.mem_display hmem with hdigit | rfl
  · exact hc (List.mem_cons_of_mem _ hdigit)
  · exact hc List.mem_cons_self

theorem plainSegment_id (u : Uuid) : PlainSegment u.display := by
  obtain ⟨c, cs, hchars⟩ : ∃ c cs, u.display.toList = c :: cs := by
    apply List.exists_cons_of_ne_nil
    intro hnil
    exact u.display_ne_empty (String.toList_inj.mp hnil)
  refine plainSegment_of_head ⟨c, by rw [hchars]; rfl, ?_⟩ ⟨?_, ?_, ?_, ?_⟩
  · rintro rfl
    have hmem : '.' ∈ u.display.toList := by
      rw [hchars]
      exact List.mem_cons_self
    exact not_mem_display (by decide) u hmem
  all_goals exact not_mem_display (by decide) u

/-! ## The target -/

section Target

variable {version version' : String} {group group' : Uuid} {rank rank' : String} {runId runId' : Option Uuid}

/-- The segments of a target. -/
def segments (version : String) (group : Uuid) (rank : String) : List String :=
  ["artifacts", "groups", group.display, rank, version, "reporting-schema", "any"]

/-- The query of a target. -/
def query (runId : Option Uuid) : List String := (runId.map fun run => "run=" ++ run.display).toList

/-- The target is put together from its segments and its query. -/
theorem registrationUri_eq (version : String) (group : Uuid) (rank : String) (runId : Option Uuid) :
    registrationUri version group rank runId =
      join '?' (("/" ++ join '/' (segments version group rank)) :: query runId) := by
  have hpath : "/artifacts/groups/" ++ group.display ++ "/" ++ rank ++ "/" ++ version ++
      "/reporting-schema/any" = "/" ++ join '/' (segments version group rank) := by
    unfold segments
    simp only [join_cons_cons, join_singleton]
    rw [← String.toList_inj]
    simp [String.toList_append]
  unfold registrationUri query
  rw [hpath]
  cases runId with
  | none => exact (join_singleton _ _).symm
  | some run =>
    rw [Option.map_some, Option.toList_some, join_cons_cons, join_singleton]
    rw [← String.toList_inj]
    simp [String.toList_append]

theorem plainSegment_segments (hversion : isPathSafeVersion version = true) (hrank : isKnownRank rank = true) :
    ∀ segment ∈ segments version group rank, PlainSegment segment := by
  intro segment hsegment
  simp only [segments, List.mem_cons, List.not_mem_nil, or_false] at hsegment
  rcases hsegment with rfl | rfl | rfl | rfl | rfl | rfl | rfl
  · constructor <;> decide +kernel
  · constructor <;> decide +kernel
  · exact plainSegment_id group
  · exact plainSegment_rank hrank
  · exact plainSegment_version hversion
  · constructor <;> decide +kernel
  · constructor <;> decide +kernel

/-- **A target is split into its path and its query.** -/
theorem split_registrationUri (hversion : isPathSafeVersion version = true)
    (hrank : isKnownRank rank = true) :
    split '?' (registrationUri version group rank runId) =
      ("/" ++ join '/' (segments version group rank)) :: query runId := by
  have hplain : ∀ segment ∈ segments version group rank, PlainSegment segment :=
    plainSegment_segments hversion hrank
  rw [registrationUri_eq, split_join_iff (List.cons_ne_nil _ _)]
  intro part hpart
  rcases List.mem_cons.mp hpart with rfl | hpart
  · rw [String.toList_append, List.mem_append, not_or]
    exact ⟨by decide, not_mem_join (by decide) fun segment hsegment => (hplain segment hsegment).plain.2.1⟩
  · obtain ⟨run, _, rfl⟩ := Option.map_eq_some_iff.mp (Option.mem_toList.mp hpart)
    rw [String.toList_append, List.mem_append, not_or]
    exact ⟨by decide, (plainSegment_id run).plain.2.1⟩

/-- **A path is split into its segments.** -/
theorem split_segments (hversion : isPathSafeVersion version = true) (hrank : isKnownRank rank = true) :
    split '/' (join '/' (segments version group rank)) = segments version group rank := by
  have hne : segments version group rank ≠ [] := List.cons_ne_nil _ _
  rw [split_join_iff hne]
  exact fun segment hsegment => (plainSegment_segments hversion hrank segment hsegment).plain.1

/-- The only pair of a query is the run. -/
theorem split_query (run : Uuid) :
    split '&' ("run=" ++ run.display) = ["run=" ++ run.display] ∧
      split '=' ("run=" ++ run.display) = ["run", run.display] := by
  constructor
  · apply split_eq_singleton
    rw [String.toList_append, List.mem_append, not_or]
    exact ⟨by decide, (plainSegment_id run).plain.2.2.2⟩
  · have hjoin : "run=" ++ run.display = join '=' ["run", run.display] := by
      rw [join_cons_cons, join_singleton]
      rfl
    rw [hjoin, split_join_iff (List.cons_ne_nil _ _)]
    intro part hpart
    rcases List.mem_cons.mp hpart with rfl | hpart
    · decide
    · rw [List.mem_singleton.mp hpart]
      exact not_mem_display (by decide) run

/-- **A target tells what it is for.** -/
theorem registrationUri_inj (hversion : isPathSafeVersion version = true) (hrank : isKnownRank rank = true)
    (hversion' : isPathSafeVersion version' = true) (hrank' : isKnownRank rank' = true)
    (h : registrationUri version group rank runId = registrationUri version' group' rank' runId') :
    version = version' ∧ group = group' ∧ rank = rank' ∧ runId = runId' := by
  have hparts : ("/" ++ join '/' (segments version group rank)) :: query runId =
      ("/" ++ join '/' (segments version' group' rank')) :: query runId' := by
    rw [← split_registrationUri hversion hrank, ← split_registrationUri hversion' hrank', h]
  obtain ⟨hpath, hquery⟩ := List.cons.inj hparts
  have hsegments : segments version group rank = segments version' group' rank' := by
    rw [← split_segments hversion hrank, ← split_segments hversion' hrank',
      (String.append_right_inj "/").mp hpath]
  unfold segments at hsegments
  simp only [List.cons.injEq, and_true, true_and] at hsegments
  obtain ⟨hgroup, hrank_eq, hversion_eq⟩ := hsegments
  refine ⟨hversion_eq, Uuid.display_inj hgroup, hrank_eq, ?_⟩
  unfold query at hquery
  cases runId with
  | none =>
    cases runId' with
    | none => rfl
    | some run' => cases hquery
  | some run =>
    cases runId' with
    | none => cases hquery
    | some run' =>
      have hrun := (String.append_right_inj "run=").mp (List.cons.inj hquery).1
      rw [Uuid.display_inj hrun]

/-- **Only what passed the checks is sent**, and to its target. -/
theorem sent_request {client : CanopyClient} {sql : List UInt8} {request : Request}
    (h : (client.registerReportingSchema version group rank runId sql).1 = some request) :
    isPathSafeVersion version = true ∧ isKnownRank rank = true ∧
      request.uri = registrationUri version group rank runId := by
  unfold CanopyClient.registerReportingSchema at h
  by_cases hversion : isPathSafeVersion version = true
  · by_cases hrank : isKnownRank rank = true
    · rw [hversion, hrank, if_neg (by decide), if_neg (by decide)] at h
      dsimp only at h
      split at h
      · cases h
      · exact ⟨hversion, hrank, (Option.some.inj h) ▸ rfl⟩
    · rw [hversion, Bool.eq_false_of_not_eq_true hrank, if_neg (by decide), if_pos (by decide)] at h
      cases h
  · rw [Bool.eq_false_of_not_eq_true hversion, if_pos (by decide)] at h
    cases h

/-- **The target of a registration** has the group, the environment and the version in segments of their own,
    none of them empty or a dot segment, and no query but the run; and it tells all four. -/
theorem registration_target (hversion : isPathSafeVersion version = true) (hrank : isKnownRank rank = true)
    (group : Uuid) (runId : Option Uuid) :
    (∃ path, split '?' (registrationUri version group rank runId) =
        ("/" ++ path) :: (runId.map fun run => "run=" ++ run.display).toList ∧
      split '/' path =
        ["artifacts", "groups", group.display, rank, version, "reporting-schema", "any"] ∧
      ∀ segment ∈ split '/' path, segment ≠ "" ∧ segment ≠ "." ∧ segment ≠ "..") ∧
    (∀ run, runId = some run → split '&' ("run=" ++ run.display) = ["run=" ++ run.display] ∧
      split '=' ("run=" ++ run.display) = ["run", run.display]) ∧
    ∀ version' group' rank' runId', isPathSafeVersion version' = true → isKnownRank rank' = true →
      registrationUri version group rank runId = registrationUri version' group' rank' runId' →
      version = version' ∧ group = group' ∧ rank = rank' ∧ runId = runId' := by
  refine ⟨⟨join '/' (segments version group rank), split_registrationUri hversion hrank,
    split_segments hversion hrank, ?_⟩, fun run _ => split_query run, ?_⟩
  · rw [split_segments hversion hrank]
    intro segment hsegment
    have hplain := plainSegment_segments hversion hrank segment hsegment
    exact ⟨hplain.ne_empty, hplain.ne_dot, hplain.ne_dots⟩
  · intro version' group' rank' runId' hversion' hrank' h
    exact registrationUri_inj hversion hrank hversion' hrank' h

end Target

/-- The id of zeros. -/
def zeroId : Uuid := ⟨Vector.replicate 16 0⟩

/-- A release candidate is registered in production. -/
theorem release_candidate_target :
    ∃ path, split '?' (registrationUri "2.3.0-rc.1" zeroId "production" none) = ["/" ++ path] ∧
      split '/' path = ["artifacts", "groups", zeroId.display, "production", "2.3.0-rc.1",
        "reporting-schema", "any"] := by
  have hversion : isPathSafeVersion "2.3.0-rc.1" = true := by decide
  have hrank : isKnownRank "production" = true := by decide
  obtain ⟨⟨path, hquestion, hslash, _⟩, _⟩ := registration_target hversion hrank zeroId none
  exact ⟨path, hquestion, hslash⟩

end RestoreOperator

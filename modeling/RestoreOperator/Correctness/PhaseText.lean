import RestoreOperator.Objects.PhaseText

/-!
# `Correctness.PhaseText` — a phase that is written and read

Reading takes white space off the reason of a failure, and not only the space that writing has put before it.
So a phase is read back unless its reason has white space of its own at an end.
-/

namespace RestoreOperator

/-! ## Phases of any kind -/

section Phases

variable {Phase : Type} {words : List (String × Phase)} {failed : String → Phase} {what : String}
  {debug : String → String}

theorem stripPrefix_append (word s : String) : stripPrefix word (word ++ s) = some s := by
  unfold stripPrefix
  rw [String.toList_append, if_pos (List.prefix_append _ _), List.drop_left, String.ofList_toList]

/-- What starts like a failure is none of the words. -/
theorem lookup_words_eq_none {s : String} (hwords : ∀ e ∈ words, stripPrefix "failed:" e.1 = none)
    (hs : stripPrefix "failed:" s ≠ none) : words.lookup s = none := by
  rw [List.lookup_eq_none_iff]
  intro e he
  rw [bne_iff_ne]
  rintro rfl
  exact hs (hwords e he)

/-- **A failure is read back without the white space around its reason.** -/
theorem phaseFromStr_failed (hwords : ∀ e ∈ words, stripPrefix "failed:" e.1 = none) (reason : String) :
    phaseFromStr words failed what debug ("failed: " ++ reason) = .ok (failed (trim reason)) := by
  have hstrip : stripPrefix "failed:" ("failed: " ++ reason) = some (" " ++ reason) := by
    have hsplit : "failed: " ++ reason = "failed:" ++ (" " ++ reason) := by
      rw [← String.append_assoc]
      rfl
    rw [hsplit, stripPrefix_append]
  have hblank : trim " " = "" := by decide +kernel
  unfold phaseFromStr
  rw [lookup_words_eq_none hwords (hstrip ▸ Option.some_ne_none _), hstrip]
  dsimp only
  rw [trim_append_left hblank]

/-- **What is read** is the phase of a word, or a failure for a trimmed reason. -/
theorem phaseFromStr_eq_ok {s : String} {phase : Phase}
    (h : phaseFromStr words failed what debug s = .ok phase) :
    phase ∈ words.map Prod.snd ∨ ∃ reason, trim reason = reason ∧ phase = failed reason := by
  unfold phaseFromStr at h
  cases hlookup : words.lookup s with
  | some phase' =>
    rw [hlookup] at h
    cases h
    obtain ⟨before, after, hwords, _⟩ := List.lookup_eq_some_iff.mp hlookup
    left
    rw [hwords]
    exact List.mem_map_of_mem (List.mem_append_right before List.mem_cons_self)
  | none =>
    rw [hlookup] at h
    cases hstrip : stripPrefix "failed:" s with
    | none =>
      rw [hstrip] at h
      cases h
    | some reason =>
      rw [hstrip] at h
      cases h
      exact Or.inr ⟨trim reason, trim_trim reason, rfl⟩

/-- Two failures are the same for the same reason only, so one is read back if it loses nothing. -/
theorem phaseFromStr_failed_iff (hwords : ∀ e ∈ words, stripPrefix "failed:" e.1 = none)
    (hinj : ∀ a b, failed a = failed b → a = b) (reason : String) :
    phaseFromStr words failed what debug ("failed: " ++ reason) = .ok (failed reason) ↔
      ∀ reason', failed reason = failed reason' → trim reason' = reason' := by
  rw [phaseFromStr_failed hwords]
  constructor
  · intro h reason' hsame
    rw [← hinj _ _ hsame]
    exact hinj _ _ (Except.ok.inj h)
  · intro h
    rw [h reason rfl]

end Phases

/-! ## The two kinds of phases -/

section Kinds

variable {debug : String → String} {s : String}

/-- A migration phase is read back if its reason is trimmed. -/
theorem SchemaMigrationPhase.fromStr_display_iff (phase : SchemaMigrationPhase) :
    fromStr debug phase.display = .ok phase ↔ ∀ reason, phase = .failed reason → trim reason = reason := by
  cases phase with
  | failed reason => exact phaseFromStr_failed_iff (by decide +kernel) (fun _ _ => failed.inj) reason
  | _ => exact iff_of_true rfl fun _ h => nomatch h

/-- A migration phase that was read is read back. -/
theorem SchemaMigrationPhase.fromStr_display_of_read {phase : SchemaMigrationPhase}
    (h : fromStr debug s = .ok phase) : fromStr debug phase.display = .ok phase := by
  rw [fromStr_display_iff]
  rintro reason rfl
  rcases phaseFromStr_eq_ok h with hword | ⟨reason', htrim, hsame⟩
  · simp at hword
  · rw [failed.inj hsame]
    exact htrim

/-- A redaction phase is read back if its reason is trimmed. -/
theorem RedactionPhase.fromStr_display_iff (phase : RedactionPhase) :
    fromStr debug phase.display = .ok phase ↔ ∀ reason, phase = .failed reason → trim reason = reason := by
  cases phase with
  | failed reason => exact phaseFromStr_failed_iff (by decide +kernel) (fun _ _ => failed.inj) reason
  | _ => exact iff_of_true rfl fun _ h => nomatch h

/-- A redaction phase that was read is read back. -/
theorem RedactionPhase.fromStr_display_of_read {phase : RedactionPhase}
    (h : fromStr debug s = .ok phase) : fromStr debug phase.display = .ok phase := by
  rw [fromStr_display_iff]
  rintro reason rfl
  rcases phaseFromStr_eq_ok h with hword | ⟨reason', htrim, hsame⟩
  · simp at hword
  · rw [failed.inj hsame]
    exact htrim

end Kinds

/-- **A phase is read back exactly if it is no failure, or its reason has no white space at its ends**; and
    what was read once is read back. -/
theorem phase_read_back_iff (debug : String → String) :
    (∀ phase : SchemaMigrationPhase, SchemaMigrationPhase.fromStr debug phase.display = .ok phase ↔
      ∀ reason, phase = .failed reason → trim reason = reason) ∧
    (∀ phase : RedactionPhase, RedactionPhase.fromStr debug phase.display = .ok phase ↔
      ∀ reason, phase = .failed reason → trim reason = reason) ∧
    (∀ s phase, SchemaMigrationPhase.fromStr debug s = .ok phase →
      SchemaMigrationPhase.fromStr debug phase.display = .ok phase) ∧
    ∀ s phase, RedactionPhase.fromStr debug s = .ok phase →
      RedactionPhase.fromStr debug phase.display = .ok phase :=
  ⟨SchemaMigrationPhase.fromStr_display_iff, RedactionPhase.fromStr_display_iff,
    fun _ _ => SchemaMigrationPhase.fromStr_display_of_read,
    fun _ _ => RedactionPhase.fromStr_display_of_read⟩

/-- **A reason that ends its line is not read back**: the end of the line is lost. -/
theorem failed_line_not_read_back :
    SchemaMigrationPhase.fromStr id (SchemaMigrationPhase.failed "connection refused\n").display =
        .ok (.failed "connection refused") ∧
      RedactionPhase.fromStr id (RedactionPhase.failed "connection refused\n").display =
        .ok (.failed "connection refused") ∧
      SchemaMigrationPhase.failed "connection refused" ≠ .failed "connection refused\n" ∧
      RedactionPhase.failed "connection refused" ≠ .failed "connection refused\n" :=
  ⟨by decide +kernel, by decide +kernel, by decide, by decide⟩

end RestoreOperator

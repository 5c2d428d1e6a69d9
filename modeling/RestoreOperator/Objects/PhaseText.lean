import RestoreOperator.Replica.Trimming

/-!
# `Objects.PhaseText` — the phases of a step as texts

A status field holds the phase of a migration or of a redaction as a flat text: a word, or `failed: ` and the
reason.  How Rust writes a text in quotes, for an error, is a parameter.
-/

namespace RestoreOperator

/-- A text without a word it starts with. -/
def stripPrefix (word s : String) : Option String :=
  if word.toList <+: s.toList then some (String.ofList (s.toList.drop word.toList.length)) else none

/-- A phase is one of the words, or a failure for the reason that is left of the text. -/
def phaseFromStr {Phase : Type} (words : List (String × Phase)) (failed : String → Phase) (what : String)
    (debug : String → String) (s : String) : Except String Phase :=
  match words.lookup s with
  | some phase => .ok phase
  | none =>
    match stripPrefix "failed:" s with
    | some reason => .ok (failed (trim reason))
    | none => .error ("unknown " ++ what ++ ": " ++ debug s)

namespace SchemaMigrationPhase

/-- The phase of a migration, written. -/
def display : SchemaMigrationPhase → String
  | .active => "active"
  | .complete => "complete"
  | .partly => "partial"
  | .timeoutSkipped => "timeout-skipped"
  | .failed reason => "failed: " ++ reason

/-- The phase of a migration, read. -/
def fromStr : (debug : String → String) → String → Except String SchemaMigrationPhase :=
  phaseFromStr
    [("active", .active), ("complete", .complete), ("partial", .partly), ("timeout-skipped", .timeoutSkipped)]
    .failed "schema migration phase"

end SchemaMigrationPhase

namespace RedactionPhase

/-- The phase of a redaction, written. -/
def display : RedactionPhase → String
  | .active => "active"
  | .complete => "complete"
  | .partly => "partial"
  | .failed reason => "failed: " ++ reason

/-- The phase of a redaction, read. -/
def fromStr : (debug : String → String) → String → Except String RedactionPhase :=
  phaseFromStr [("active", .active), ("complete", .complete), ("partial", .partly)] .failed "redaction phase"

end RedactionPhase

end RestoreOperator

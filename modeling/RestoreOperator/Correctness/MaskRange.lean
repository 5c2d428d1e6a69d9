import RestoreOperator.Base.Delimited
import RestoreOperator.Redaction.Manifest

/-!
# `Correctness.MaskRange` — the range of a mask

A range is split at its last dash, which is the one between the bounds unless the upper bound has a dash of
its own.  Then the range is lost, and the mask takes the default range of its kind.
-/

namespace RestoreOperator

open FloatText

/-! ## The last dash -/

/-- **The last separator splits.** -/
theorem rsplitOnce_append {sep : Char} {back : String} (h : sep ∉ back.toList) (front : String) :
    rsplitOnce sep (front ++ String.singleton sep ++ back) = some (front, back) := by
  have hback : sep ∉ back.toList.reverse := fun hmem => h (List.mem_reverse.mp hmem)
  unfold rsplitOnce
  rw [String.toList_append, String.toList_append, String.toList_singleton, List.append_assoc,
    List.reverse_append, List.reverse_append, List.reverse_singleton, List.append_assoc,
    List.singleton_append, List.span_eq_takeWhile_dropWhile]
  dsimp only
  rw [Delimited.takeWhile_ne_append_cons hback, Delimited.dropWhile_ne_append_cons hback]
  dsimp only
  rw [List.reverse_reverse, List.reverse_reverse, String.ofList_toList, String.ofList_toList]

/-- The digits of a decimal are no dashes. -/
theorem dash_not_mem_unsigned (d : Decimal) : '-' ∉ d.unsigned := by
  have hdigits : ∀ digits : List (Fin 10), '-' ∉ digitChars digits := by
    intro digits hmem
    have hdigit := isDigit_of_mem_digitChars hmem
    revert hdigit
    decide
  unfold Decimal.unsigned
  rw [List.mem_append, not_or]
  refine ⟨hdigits _, ?_⟩
  split
  · exact List.not_mem_nil
  · intro hmem
    rcases List.mem_cons.mp hmem with hpoint | hmem
    · cases hpoint
    · exact hdigits _ hmem

/-! ## Ranges -/

variable {F64 : Type} (numbers : Numbers F64) (display : F64 → String)

/-- The number nearest to a decimal. -/
def nearest (d : Decimal) : F64 := numbers.nearest d.negative d.magnitude

/-- The text of a range. -/
def rangeText (lo hi : Decimal) : String := lo.text ++ "-" ++ hi.text

/-- An upper bound without a sign is split off. -/
theorem parseRange_of_nonneg (lo : Decimal) {hi : Decimal} (h : hi.negative = false) :
    parseRange (f64Text numbers display) (rangeText lo hi) =
      some (nearest numbers lo, nearest numbers hi) := by
  have hback : '-' ∉ hi.text.toList := by
    unfold Decimal.text
    rw [h, String.toList_ofList, if_neg Bool.false_ne_true, List.nil_append]
    exact dash_not_mem_unsigned hi
  have hsplit : rsplitOnce '-' (rangeText lo hi) = some (lo.text, hi.text) := rsplitOnce_append hback lo.text
  unfold parseRange
  rw [hsplit]
  simp only [Option.bind_eq_bind, Option.bind_some, f64Text, parse_text]
  rfl

/-- **A sign of the upper bound is taken for the separator**, and what is left before it is no number. -/
theorem parseRange_of_negative (lo : Decimal) {hi : Decimal} (h : hi.negative = true) :
    parseRange (f64Text numbers display) (rangeText lo hi) = none := by
  have htext : rangeText lo hi = lo.text ++ "-" ++ String.singleton '-' ++ String.ofList hi.unsigned := by
    unfold rangeText Decimal.text
    rw [h, ← String.toList_inj]
    simp
  have hback : '-' ∉ (String.ofList hi.unsigned).toList := by
    rw [String.toList_ofList]
    exact dash_not_mem_unsigned hi
  have hsplit : rsplitOnce '-' (rangeText lo hi) = some (lo.text ++ "-", String.ofList hi.unsigned) := by
    rw [htext]
    exact rsplitOnce_append hback (lo.text ++ "-")
  unfold parseRange
  rw [hsplit]
  simp only [Option.bind_eq_bind, Option.bind_some, f64Text, parse_text_dash, Option.bind_none]

/-! ## Masks -/

section Masks

variable (text : F64Text F64)

/-- What is assigned within bounds, by the kinds that have a range. -/
def boundedExpression (lo hi : String) : (kind : String) → Option String
  | "integer" => some s!"(floor(random() * ({hi} - {lo} + 1)) + {lo})::int"
  | "float" => some s!"(random() * ({hi} - {lo}) + {lo})::numeric"
  | "money" => some s!"round((random() * ({hi} - {lo}) + {lo})::numeric, 2)"
  | _ => none

/-- **A mask with a range stays within it.** -/
theorem maskExpression_within {mask : ColumnMask F64} {lo hi : F64} (hrange : mask.range = some (lo, hi))
    (info : Option ColumnInfo) {expr : String}
    (h : boundedExpression (text.display lo) (text.display hi) mask.kind = some expr) :
    maskExpression text mask info = .ok (nullPres (quoteIdent mask.column) expr) := by
  unfold boundedExpression at h
  unfold maskExpression
  rw [hrange]
  split at h
  · rename_i hkind
    rw [hkind, ← Option.some.inj h]
    rfl
  · rename_i hkind
    rw [hkind, ← Option.some.inj h]
    rfl
  · rename_i hkind
    rw [hkind, ← Option.some.inj h]
    rfl
  · cases h

/-- The range of a column is what is read of its text. -/
theorem columnMask_range {schema name column kind range : String} {node mask : Value}
    (hmask : metaMasking node = some mask) (hkind : maskKind mask = some kind)
    (hrange : mask.asObject.bind (·.lookup "range") = some (.string range)) :
    columnMask text schema name (column, node) =
      some { schema, table := name, column, kind, range := parseRange text range } := by
  have hread : maskRange text mask = parseRange text range := by
    unfold maskRange
    rw [hrange]
    rfl
  unfold columnMask
  rw [hmask]
  simp only [Option.bind_eq_bind, Option.bind_some, hkind, hread, Option.pure_def]

end Masks

/-- **A range keeps its bounds**: they are read, and a column with the range is masked within them. -/
def KeepsBounds (lo hi : Decimal) : Prop :=
  let text := f64Text numbers display
  parseRange text (rangeText lo hi) = some (nearest numbers lo, nearest numbers hi) ∧
    ∀ (schema name column kind : String) (node mask : Value), metaMasking node = some mask →
      maskKind mask = some kind →
      mask.asObject.bind (·.lookup "range") = some (.string (rangeText lo hi)) →
      ∃ columnMask' : ColumnMask F64, columnMask text schema name (column, node) = some columnMask' ∧
        columnMask'.range = some (nearest numbers lo, nearest numbers hi) ∧
        ∀ info expr,
          boundedExpression (display (nearest numbers lo)) (display (nearest numbers hi)) kind = some expr →
          maskExpression text columnMask' info = .ok (nullPres (quoteIdent column) expr)

/-- **A range keeps its bounds exactly if the upper one has no sign.** -/
theorem range_keeps_bounds_iff (lo hi : Decimal) :
    KeepsBounds numbers display lo hi ↔ hi.negative = false := by
  constructor
  · rintro ⟨hread, _⟩
    by_contra hsign
    rw [parseRange_of_negative numbers display lo (Bool.eq_true_of_not_eq_false hsign)] at hread
    cases hread
  · intro h
    have hread := parseRange_of_nonneg numbers display lo h
    refine ⟨hread, fun schema name column kind node mask hmask hkind hrange => ?_⟩
    have hcolumn : columnMask (f64Text numbers display) schema name (column, node) = _ :=
      columnMask_range (f64Text numbers display) hmask hkind hrange
    rw [hread] at hcolumn
    refine ⟨_, hcolumn, rfl, fun info expr hexpr => ?_⟩
    exact maskExpression_within (f64Text numbers display) rfl info hexpr

/-! ## Bounds below zero -/

/-- The rational numbers, exactly. -/
def exactNumbers : Numbers ℚ where
  nearest negative magnitude := if negative then -magnitude else magnitude
  infinity _ := 0
  nan _ := 0

/-- A whole number, written. -/
def showWhole (q : ℚ) : String := toString q.num

def minusTen : Decimal := { negative := true, whole := [1, 0], whole_ne_nil := by decide }

def minusFive : Decimal := { negative := true, whole := [5], whole_ne_nil := by decide }

/-- **A range below zero is lost**: integers between -10 and -5 are masked with any integer. -/
theorem range_below_zero_lost :
    rangeText minusTen minusFive = "-10--5" ∧
      nearest exactNumbers minusTen ≤ nearest exactNumbers minusFive ∧
      ¬ KeepsBounds exactNumbers showWhole minusTen minusFive ∧
      parseRange (f64Text exactNumbers showWhole) "-10--5" = none ∧
      (columnMask (f64Text exactNumbers showWhole) "public" "readings" ("celsius", .object [("meta",
          .object [("masking", .object [("kind", .string "integer"), ("range", .string "-10--5")])])])).map
        (fun mask => maskExpression (f64Text exactNumbers showWhole) mask none) =
      some (.ok ("CASE WHEN \"celsius\" IS NULL THEN NULL ELSE " ++
        "(floor(random() * (2147483647 - -2147483648 + 1)) + -2147483648)::int END")) := by
  have hlost : parseRange (f64Text exactNumbers showWhole) (rangeText minusTen minusFive) = none :=
    parseRange_of_negative exactNumbers showWhole minusTen rfl
  refine ⟨by decide +kernel, by decide +kernel, ?_, by decide +kernel, by decide +kernel⟩
  rintro ⟨hread, _⟩
  rw [hlost] at hread
  cases hread

end RestoreOperator

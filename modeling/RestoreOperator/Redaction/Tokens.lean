import RestoreOperator.Base.SqlLexer
import RestoreOperator.Redaction.Mask

/-!
# `Redaction.Tokens` — names and expressions as the database reads them

A quoted name is read as one identifier.  The expression of a mask is made of texts that the name of its
column stands between, and these texts are read the same whatever the name is.
-/

namespace RestoreOperator

open SqlLexer FloatText

/-! ## Names -/

theorem quoteIdent_toList (s : String) : (quoteIdent s).toList = quote s.toList := by
  unfold quoteIdent quote
  have hmark : "\"".toList = ['"'] := rfl
  rw [String.toList_append, String.toList_append, hmark, String.toList_ofList]
  rfl

/-- The tokens of a statement. -/
def sqlTokens (sql : String) : Except Refusal (List Token) := tokens sql.toList

/-- The identifier that a quoted name is read as. -/
def nameToken (s : String) : Except Refusal Token := identifier s.toList

/-- A quoted name is read back, and the text after it is left. -/
theorem readDelimited_quoteIdent (s : String) {k : List Char} (hk : k.head? ≠ some '"') :
    readDelimited ((quoteIdent s).toList ++ k) = (nameToken s).map fun name => (name, k) := by
  rw [quoteIdent_toList]
  exact readDelimited_quote s.toList hk

/-- A name that can be quoted is read as it is, as far as it fits an identifier. -/
theorem nameToken_eq {s : String} (hnul : nul ∉ s.toList) (hne : s ≠ "") :
    nameToken s = .ok (.ident (String.ofList (clip s.toList))) := by
  have hchars : s.toList ≠ [] := by
    intro h
    exact hne (String.toList_eq_nil_iff.mp h)
  unfold nameToken identifier delimited
  rw [if_neg hnul, if_neg hchars]

/-- A name that fits is read as it is. -/
theorem nameToken_eq_self {s : String} (hnul : nul ∉ s.toList) (hne : s ≠ "")
    (hfits : Utf8.byteLen s.toList ≤ maxIdentifier) : nameToken s = .ok (.ident s) := by
  have hclip : clip s.toList = s.toList := Utf8.takeBytes_eq_self hfits
  rw [nameToken_eq hnul hne, hclip, String.ofList_toList]

/-- An empty name is refused, and one with a NUL. -/
theorem nameToken_refused {s : String} (h : nul ∈ s.toList ∨ s = "") :
    ∃ refusal, nameToken s = .error refusal := by
  unfold nameToken identifier delimited
  rcases h with hnul | rfl
  · exact ⟨.nul, if_pos hnul⟩
  · exact ⟨.zeroLength, by decide⟩

/-! ## Expressions -/

/-- The texts the column stands between where a null is left as it is. -/
def nullPresTexts (expr : String) : List String :=
  ["CASE WHEN ", " IS NULL THEN NULL ELSE " ++ expr ++ " END"]

/-- The same, with the column within the expression too. -/
def nullPresTextsAround (front back : String) : List String :=
  ["CASE WHEN ", " IS NULL THEN NULL ELSE " ++ front, back ++ " END"]

theorem nullPres_eq (col expr : String) : nullPres col expr = col.intercalate (nullPresTexts expr) := by
  unfold nullPresTexts
  rw [String.intercalate_cons_cons, String.intercalate_singleton]
  show "CASE WHEN " ++ col ++ " IS NULL THEN NULL ELSE " ++ expr ++ " END" = _
  simp only [String.append_assoc]

theorem nullPres_eq_around (col front back : String) :
    nullPres col (front ++ col ++ back) = col.intercalate (nullPresTextsAround front back) := by
  unfold nullPresTextsAround
  rw [String.intercalate_cons_cons, String.intercalate_cons_cons, String.intercalate_singleton]
  show "CASE WHEN " ++ col ++ " IS NULL THEN NULL ELSE " ++ (front ++ col ++ back) ++ " END" = _
  simp only [String.append_assoc]

/-- The texts the column stands between in the expression of a `zero` mask. -/
def zeroTexts (info : ColumnInfo) : Except String (List String) :=
  match dataTypeFamily info.dataType with
  | .bytea => .ok ["decode(repeat('00', length(", ")), 'hex')"]
  | .text => .ok ["repeat('0', length(", "))"]
  | .numeric => .ok ["0"]
  | .other => .error ("zero mask unsupported for type " ++ info.dataType)

theorem zeroExpression_eq (col : String) (info : ColumnInfo) :
    zeroExpression col info = (zeroTexts info).map (col.intercalate ·) := by
  unfold zeroExpression zeroTexts
  cases dataTypeFamily info.dataType with
  | numeric => exact congrArg Except.ok String.intercalate_singleton.symm
  | text | bytea =>
    show Except.ok _ = Except.ok (col.intercalate _)
    rw [String.intercalate_cons_cons, String.intercalate_singleton]
    rfl
  | other => rfl

/-- An expression without the column. -/
theorem ok_eq_map (col expr : String) :
    (Except.ok expr : Except String String) = (Except.ok [expr]).map (col.intercalate ·) :=
  congrArg Except.ok String.intercalate_singleton.symm

variable {F64 : Type} (text : F64Text F64)

/-- **The texts that the name of its column stands between in the expression of a mask.** -/
def exprTexts (kind : String) (range : Option (F64 × F64)) (info : Option ColumnInfo) :
    Except String (List String) :=
  let bounds (lo hi : Int) :=
    let bounds := range.getD (text.ofInt lo, text.ofInt hi)
    (text.display bounds.1, text.display bounds.2)
  match kind with
  | "date" => .ok (nullPresTexts "anon.random_date()")
  | "datetime" =>
    .ok (nullPresTextsAround "date_trunc('day', "
      ") + (floor(random() * 86400) || ' seconds')::interval")
  | "text" => .ok (nullPresTextsAround "anon.lorem_ipsum(characters := length(" "))")
  | "string" => .ok (nullPresTextsAround "anon.random_string(length(" "))")
  | "email" => .ok (nullPresTexts "anon.fake_email()")
  | "name" =>
    .ok (nullPresTextsAround "CASE WHEN " (" LIKE '% %' " ++
      ("THEN anon.fake_first_name() || ' ' || anon.fake_last_name() " ++
        "ELSE anon.fake_first_name() END")))
  | "phone" => .ok (nullPresTextsAround "anon.partial(" ", 2, '****', 2)")
  | "place" => .ok (nullPresTexts "anon.fake_city()")
  | "url" => .ok (nullPresTexts "'https://example.invalid/' || anon.random_string(8)")
  | "integer" =>
    let (lo, hi) := bounds (-2147483648) 2147483647
    .ok (nullPresTexts s!"(floor(random() * ({hi} - {lo} + 1)) + {lo})::int")
  | "float" =>
    let (lo, hi) := bounds 0 1
    .ok (nullPresTexts s!"(random() * ({hi} - {lo}) + {lo})::numeric")
  | "money" =>
    let (lo, hi) := bounds 0 10000
    .ok (nullPresTexts s!"round((random() * ({hi} - {lo}) + {lo})::numeric, 2)")
  | "zero" =>
    match info with
    | none => .error "zero mask needs column type"
    | some info => zeroTexts info
  | "empty" =>
    match info with
    | none => .error "empty mask needs column type"
    | some info => (emptyExpression info).map fun expr => [expr]
  | "nil" =>
    match info with
    | none => .error "nil mask needs column type"
    | some info =>
      if info.isNullable then .ok ["NULL"] else .error "nil mask on non-nullable column"
  | "default" =>
    match info with
    | none => .error "default mask needs column type"
    | some info =>
      match info.columnDefault with
      | some d => .ok [d]
      | none => .error "default mask on column without default"
  | other => .error ("unknown mask kind: " ++ other)

/-- **An expression is its texts with the name of its column between them.** -/
theorem maskExpression_eq (mask : ColumnMask F64) (info : Option ColumnInfo) :
    maskExpression text mask info =
      (exprTexts text mask.kind mask.range info).map ((quoteIdent mask.column).intercalate ·) := by
  obtain ⟨schema, table, column, kind, range⟩ := mask
  unfold maskExpression exprTexts
  dsimp only
  split
  · exact congrArg Except.ok (nullPres_eq _ _)
  · exact congrArg Except.ok (nullPres_eq_around _ _ _)
  · exact congrArg Except.ok (nullPres_eq_around _ _ _)
  · exact congrArg Except.ok (nullPres_eq_around _ _ _)
  · exact congrArg Except.ok (nullPres_eq _ _)
  · refine congrArg Except.ok (Eq.trans ?_ (nullPres_eq_around _ _ _))
    show nullPres _ ("CASE WHEN " ++ quoteIdent column ++ " LIKE '% %' " ++ _ ++ _) = _
    rw [String.append_assoc, String.append_assoc]
  · exact congrArg Except.ok (nullPres_eq_around _ _ _)
  · exact congrArg Except.ok (nullPres_eq _ _)
  · exact congrArg Except.ok (nullPres_eq _ _)
  · exact congrArg Except.ok (nullPres_eq _ _)
  · exact congrArg Except.ok (nullPres_eq _ _)
  · exact congrArg Except.ok (nullPres_eq _ _)
  · cases info with
    | none => rfl
    | some info => exact zeroExpression_eq _ info
  · cases info with
    | none => rfl
    | some info =>
      show emptyExpression info = ((emptyExpression info).map fun expr => [expr]).map _
      cases emptyExpression info with
      | error e => rfl
      | ok expr => exact ok_eq_map _ expr
  · cases info with
    | none => rfl
    | some info =>
      by_cases hnull : info.isNullable = true
      · simp only [hnull, if_true]
        exact ok_eq_map _ _
      · simp only [hnull]
        rfl
  · cases info with
    | none => rfl
    | some info =>
      cases hdefault : info.columnDefault with
      | none =>
        simp only [hdefault]
        rfl
      | some d =>
        simp only [hdefault]
        exact ok_eq_map _ d
  · simp only [*, Except.map]

/-! ## Numbers -/

/-- **A number as a text that is a number for the database too**, or the name of one. -/
def PlainNumber (s : String) : Prop := (∃ d : Decimal, s = d.text) ∨ s ∈ ["inf", "-inf", "NaN"]

/-- A digit starts a number, after a sign too. -/
theorem leads_digit {s : State} (hs : s = .start ∨ s = .operator ['-']) (d : Fin 10) :
    Leads s [Nat.digitChar d.val] (.integer [Nat.digitChar d.val]) := by
  rcases hs with rfl | rfl
  · refine ⟨[], ?_⟩
    revert d
    decide
  · refine ⟨[.operator "-"], ?_⟩
    revert d
    decide

/-- A decimal ends before a space or a closing bracket. -/
theorem leads_unsigned {s : State} (hs : s = .start ∨ s = .operator ['-']) (d : Decimal) {c : Char}
    (hc : c = ' ' ∨ c = ')') : Leads s (d.unsigned ++ [c]) .start := by
  have hdigits : ∀ digits : List (Fin 10), ∀ c ∈ digitChars digits, c.isDigit = true :=
    fun _ _ => isDigit_of_mem_digitChars
  have hinteger : ∀ text c, c.isDigit = true →
      step (.integer text) c = .ok (.integer (text ++ [c]), []) := fun _ _ h => if_pos h
  have hfraction : ∀ text c, c.isDigit = true →
      step (.fraction text) c = .ok (.fraction (text ++ [c]), []) := fun _ _ h => if_pos h
  have hwhole : ∃ text, Leads s (digitChars d.whole) (.integer text) := by
    cases hd : d.whole with
    | nil => exact absurd hd d.whole_ne_nil
    | cons digit rest =>
      exact ⟨_, (leads_digit hs digit).trans (leads_digits hinteger _ (hdigits rest))⟩
  obtain ⟨text, hwhole⟩ := hwhole
  unfold Decimal.unsigned
  rw [List.append_assoc]
  refine hwhole.trans ?_
  split
  · rcases hc with rfl | rfl
    · exact ⟨_, rfl⟩
    · exact ⟨_, rfl⟩
  · have hpoint : Leads (.integer text) ['.'] (.fraction (text ++ ['.'])) := ⟨_, rfl⟩
    refine hpoint.trans ((leads_digits hfraction _ (hdigits d.fraction)).trans ?_)
    rcases hc with rfl | rfl
    · exact ⟨_, rfl⟩
    · exact ⟨_, rfl⟩

/-- **A number is read up to what ends it.** -/
theorem leads_number {number : String} (h : PlainNumber number) {c : Char} (hc : c = ' ' ∨ c = ')') :
    Leads .start (number.toList ++ [c]) .start := by
  rcases h with ⟨d, rfl⟩ | hname
  · unfold Decimal.text
    rw [String.toList_ofList, List.append_assoc]
    by_cases hneg : d.negative = true
    · have hsign : Leads .start ['-'] (.operator ['-']) := ⟨_, rfl⟩
      rw [if_pos hneg]
      exact hsign.trans (leads_unsigned (.inr rfl) d hc)
    · rw [if_neg hneg, List.nil_append]
      exact leads_unsigned (.inl rfl) d hc
  · have hspace : ∀ name ∈ ["inf", "-inf", "NaN"],
        Leads .start (name.toList ++ [' ']) .start := by decide
    have hbracket : ∀ name ∈ ["inf", "-inf", "NaN"],
        Leads .start (name.toList ++ [')']) .start := by decide
    rcases hc with rfl | rfl
    · exact hspace number hname
    · exact hbracket number hname

/-- A number, and a text that ends it. -/
theorem leads_number_append {number : String} (h : PlainNumber number) {after : List Char} {s : State}
    (hhead : after.head? = some ' ' ∨ after.head? = some ')') (htail : Leads .start after.tail s) :
    Leads .start (number.toList ++ after) s := by
  obtain ⟨c, rest, rfl⟩ : ∃ c rest, after = c :: rest := by
    cases after with
    | nil => rcases hhead with hhead | hhead <;> cases hhead
    | cons c rest => exact ⟨c, rest, rfl⟩
  have hc : c = ' ' ∨ c = ')' := hhead.imp Option.some.inj Option.some.inj
  have hread := (leads_number h hc).trans htail
  rw [List.append_assoc] at hread
  exact hread

/-! ## Every expression is read -/

/-- An expression within bounds, by the texts around them. -/
theorem fits_bounded {hi lo : String} (hhi : PlainNumber hi) (hlo : PlainNumber lo)
    {front middle back : String}
    (hfront : Leads .start (" IS NULL THEN NULL ELSE " ++ front).toList .start)
    (hmiddle : middle.toList.head? = some ' ' ∨ middle.toList.head? = some ')')
    (hmiddle' : Leads .start middle.toList.tail .start)
    (hback : (back ++ " END").toList.head? = some ')')
    (hback' : Leads .start (back ++ " END").toList.tail (.word "END".toList)) :
    fits ((nullPresTexts (front ++ hi ++ " - " ++ lo ++ middle ++ lo ++ back)).map String.toList) =
      true := by
  have hminus : Leads .start " - ".toList.tail .start := by decide
  have hname : Leads .start ("CASE WHEN ".toList ++ ['"']) (.quoted []) := by decide
  have hread := ((hfront.trans (leads_number_append hhi (.inl (by decide)) hminus)).trans
    (leads_number_append hlo hmiddle hmiddle')).trans (leads_number_append hlo (.inr hback) hback')
  have htokens := hread.isOk_tokens rfl
  unfold nullPresTexts
  simp only [List.map_cons, List.map_nil, fits, Bool.and_eq_true, decide_eq_true_eq]
  refine ⟨⟨hname, ?_⟩, ?_⟩
  · rw [String.toList_append, String.toList_append]
    rfl
  · simp only [String.toList_append, List.append_assoc] at htokens ⊢
    exact htokens

theorem fits_zeroTexts {info : ColumnInfo} {texts : List String} (h : zeroTexts info = .ok texts) :
    fits (texts.map String.toList) = true := by
  unfold zeroTexts at h
  split at h
  · cases h
    decide
  · cases h
    decide
  · cases h
    decide
  · cases h

theorem fits_emptyExpression {info : ColumnInfo} {expr : String} (h : emptyExpression info = .ok expr) :
    fits [expr.toList] = true := by
  unfold emptyExpression at h
  split at h
  · cases h
    decide
  · cases h
    decide
  · cases h
    decide
  · split at h
    · rename_i hjson
      cases h
      rcases hjson with hjson | hjson
      · rw [hjson]
        decide
      · rw [hjson]
        decide
    · split at h
      · cases h
        decide
      · cases h

/-- The default of a column, which the database has written out, is read on its own. -/
def DefaultReads (info : Option ColumnInfo) : Prop :=
  ∀ i, info = some i → ∀ d, i.columnDefault = some d → (sqlTokens d).isOk = true

/-- **The name of a column fits into the expression of its mask**, if the numbers are plain and the default of
    the column is read on its own. -/
theorem fits_exprTexts (hdisplay : ∀ x, PlainNumber (text.display x)) {info : Option ColumnInfo}
    (hdefault : DefaultReads info)
    {kind : String} {range : Option (F64 × F64)} {texts : List String}
    (h : exprTexts text kind range info = .ok texts) : fits (texts.map String.toList) = true := by
  unfold exprTexts at h
  dsimp only at h
  split at h
  · cases h
    decide +kernel
  · cases h
    decide +kernel
  · cases h
    decide +kernel
  · cases h
    decide +kernel
  · cases h
    decide +kernel
  · cases h
    decide +kernel
  · cases h
    decide +kernel
  · cases h
    decide +kernel
  · cases h
    decide +kernel
  · cases h
    exact fits_bounded (hdisplay _) (hdisplay _) (by decide) (by decide) (by decide)
      (by decide) (by decide)
  · cases h
    exact fits_bounded (hdisplay _) (hdisplay _) (by decide) (by decide) (by decide)
      (by decide) (by decide)
  · cases h
    exact fits_bounded (hdisplay _) (hdisplay _) (by decide) (by decide) (by decide)
      (by decide) (by decide)
  · cases info with
    | none => cases h
    | some info => exact fits_zeroTexts h
  · cases info with
    | none => cases h
    | some info =>
      dsimp only at h
      cases hexpr : emptyExpression info with
      | error e =>
        rw [hexpr] at h
        cases h
      | ok expr =>
        rw [hexpr] at h
        cases h
        exact fits_emptyExpression hexpr
  · cases info with
    | none => cases h
    | some info =>
      dsimp only at h
      split at h
      · cases h
        decide
      · cases h
  · cases info with
    | none => cases h
    | some info =>
      dsimp only at h
      split at h
      · rename_i d hd
        cases h
        exact hdefault info rfl d hd
      · cases h
  · cases h

/-- **The expression of a mask has the same tokens for every column**, apart from its name. -/
theorem sqlTokens_maskExpression (hdisplay : ∀ x, PlainNumber (text.display x)) (kind : String)
    (range : Option (F64 × F64)) {info : Option ColumnInfo} (hdefault : DefaultReads info) :
    ∃ parts : List (List Token), ∀ (mask : ColumnMask F64) (expr : String), mask.kind = kind →
      mask.range = range → maskExpression text mask info = .ok expr →
        ∀ column, nameToken mask.column = .ok column →
          sqlTokens expr = .ok ([column].intercalate parts) := by
  cases htexts : exprTexts text kind range info with
  | error reason =>
    refine ⟨[], fun mask expr hkind hrange hexpr => ?_⟩
    rw [maskExpression_eq, hkind, hrange, htexts] at hexpr
    cases hexpr
  | ok texts =>
    obtain ⟨parts, _, hparts⟩ := tokens_of_fits (fits_exprTexts text hdisplay hdefault htexts)
    refine ⟨parts, fun mask expr hkind hrange hexpr column hcolumn => ?_⟩
    rw [maskExpression_eq, hkind, hrange, htexts] at hexpr
    have hread := hparts mask.column.toList column hcolumn
    rw [← quoteIdent_toList, ← String.toList_intercalate] at hread
    rw [← Except.ok.inj hexpr]
    exact hread

end RestoreOperator

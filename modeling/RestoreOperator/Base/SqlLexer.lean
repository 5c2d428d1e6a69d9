import RestoreOperator.Base.Utf8

/-!
# `Base.SqlLexer` — how PostgreSQL reads a statement as tokens

A statement is read character by character.  A state says what the current token has been so far, and a
character either continues the token or ends it and starts another.

A delimited identifier is read until a quote that is not doubled.  It has at least one character, and as much
of it counts as fits 63 bytes.

Comments, dollar quotes, parameters, national strings, Unicode escapes, escapes other than of a backslash, and
letters in a number other than for its exponent are not read here: a text with one is refused, whatever
PostgreSQL makes of it.
-/

namespace SqlLexer

open Utf8

/-- The kinds of strings, by their prefixes. -/
inductive StringKind where
  | plain
  | escape
  | bit
  | hex
  deriving Repr, DecidableEq

/-- A token. -/
inductive Token where
  /-- A key word or an identifier without quotes, in lower case. -/
  | word (name : String)
  /-- A delimited identifier. -/
  | ident (name : String)
  | string (kind : StringKind) (body : String)
  | number (text : String)
  | operator (name : String)
  | symbol (text : String)
  deriving Repr, DecidableEq

/-- Why a text is not read. -/
inductive Refusal where
  | nul
  | zeroLength
  | unterminated
  /-- A form that is not read here, or a slip in one that is. -/
  | unread
  deriving Repr, DecidableEq

/-- What the current token has been so far. -/
inductive State where
  | start
  | word (name : List Char)
  | quoted (name : List Char)
  /-- After a quote that ends the identifier, unless another follows at once. -/
  | quotedEnd (name : List Char)
  | string (kind : StringKind) (body : List Char)
  | escape (body : List Char)
  | stringEnd (kind : StringKind) (body : List Char)
  /-- After white space that follows a string: it goes on in another one on a later line. -/
  | stringGap (kind : StringKind) (body : List Char) (newline : Bool)
  | integer (digits : List Char)
  | fraction (text : List Char)
  | exponentMark (text : List Char)
  | exponentSign (text : List Char)
  | exponent (text : List Char)
  | operator (name : List Char)
  | colon
  | dot
  deriving Repr, DecidableEq

/-! ## Characters -/

def nul : Char := Char.ofNat 0

def isSpace (c : Char) : Bool := c ∈ [' ', '\t', '\n', '\r', Char.ofNat 11, Char.ofNat 12]

def isNewline (c : Char) : Bool := c = '\n' || c = '\r'

def isIdentStart (c : Char) : Bool := c.isAlpha || c = '_' || 128 ≤ c.toNat

def isIdentCont (c : Char) : Bool := isIdentStart c || c.isDigit || c = '$'

def isOperatorChar (c : Char) : Bool :=
  c ∈ ['~', '!', '@', '#', '^', '&', '|', '\x60', '?', '+', '-', '*', '/', '%', '<', '>', '=']

/-- The kind of string that a word is the prefix of. -/
def stringKind (name : List Char) : Option StringKind :=
  if name = ['e'] ∨ name = ['E'] then some .escape
  else if name = ['b'] ∨ name = ['B'] then some .bit
  else if name = ['x'] ∨ name = ['X'] then some .hex
  else none

/-! ## Tokens -/

/-- The bytes an identifier has at most. -/
def maxIdentifier : Nat := 63

/-- As much of an identifier as counts. -/
def clip (name : List Char) : List Char := takeBytes maxIdentifier name

/-- A word: its ASCII letters in lower case. -/
def wordToken (name : List Char) : Token := .word (String.ofList (clip (name.map Char.toLower)))

/-- The identifier between two quotes. -/
def delimited (name : List Char) : Except Refusal Token :=
  if name = [] then .error .zeroLength else .ok (.ident (String.ofList (clip name)))

/-- **The operators a row of operator characters is.**  Signs at its end are operators of their own, unless a
    character in it is one that no operator of standard SQL has. -/
def operatorTokens (name : List Char) : List Token :=
  let isSign (c : Char) : Bool := c = '+' || c = '-'
  let kept :=
    if name.any fun c => c ∈ ['~', '!', '@', '#', '^', '&', '|', '\x60', '?', '%'] then name.length
    else max 1 (name.reverse.dropWhile isSign).length
  .operator (String.ofList (name.take kept)) ::
    (name.drop kept).map fun c => .operator (String.singleton c)

/-- The token that ends with the text. -/
def finish : State → Except Refusal (List Token)
  | .start => .ok []
  | .word name => .ok [wordToken name]
  | .quoted _ | .string _ _ | .escape _ => .error .unterminated
  | .quotedEnd name => do
    let token ← delimited name
    return [token]
  | .stringEnd kind body | .stringGap kind body _ => .ok [.string kind (String.ofList body)]
  | .integer text | .fraction text | .exponent text => .ok [.number (String.ofList text)]
  | .exponentMark _ | .exponentSign _ => .error .unread
  | .operator name => .ok (operatorTokens name)
  | .colon => .ok [.symbol ":"]
  | .dot => .ok [.symbol "."]

/-! ## Reading -/

/-- A character that starts a token. -/
def startOn (c : Char) : Except Refusal (State × List Token) :=
  if c = nul then .error .nul
  else if isSpace c then .ok (.start, [])
  else if c = '"' then .ok (.quoted [], [])
  else if c = '\'' then .ok (.string .plain [], [])
  else if isIdentStart c then .ok (.word [c], [])
  else if c.isDigit then .ok (.integer [c], [])
  else if isOperatorChar c then .ok (.operator [c], [])
  else if c = ':' then .ok (.colon, [])
  else if c = '.' then .ok (.dot, [])
  else if c = '$' then .error .unread
  else .ok (.start, [.symbol (String.singleton c)])

/-- A character that ends the current token and starts another. -/
def close (s : State) (c : Char) : Except Refusal (State × List Token) := do
  let ended ← finish s
  let (s', tokens) ← startOn c
  return (s', ended ++ tokens)

/-- **Read a character.** -/
def step (s : State) (c : Char) : Except Refusal (State × List Token) :=
  match s with
  | .start => startOn c
  | .word name =>
    if isIdentCont c then .ok (.word (name ++ [c]), [])
    else if c = '&' ∧ (name = ['u'] ∨ name = ['U']) then .error .unread
    else if c = '\'' then
      match stringKind name with
      | some kind => .ok (.string kind [], [])
      | none => if name = ['n'] ∨ name = ['N'] then .error .unread else close s c
    else close s c
  | .quoted name =>
    if c = nul then .error .nul
    else if c = '"' then .ok (.quotedEnd name, [])
    else .ok (.quoted (name ++ [c]), [])
  | .quotedEnd name => if c = '"' then .ok (.quoted (name ++ [c]), []) else close s c
  | .string kind body =>
    if c = nul then .error .nul
    else if c = '\'' then .ok (.stringEnd kind body, [])
    else if c = '\\' ∧ kind = .escape then .ok (.escape body, [])
    else .ok (.string kind (body ++ [c]), [])
  | .escape body => if c = '\\' then .ok (.string .escape (body ++ [c]), []) else .error .unread
  | .stringEnd kind body =>
    if c = '\'' ∧ (kind = .plain ∨ kind = .escape) then .ok (.string kind (body ++ [c]), [])
    else if isSpace c then .ok (.stringGap kind body (isNewline c), [])
    else close s c
  | .stringGap kind body newline =>
    if isSpace c then .ok (.stringGap kind body (newline || isNewline c), [])
    else if c = '\'' ∧ newline then .ok (.string kind body, [])
    else close s c
  | .integer text =>
    if c.isDigit then .ok (.integer (text ++ [c]), [])
    else if c = '.' then .ok (.fraction (text ++ [c]), [])
    else if c = 'e' ∨ c = 'E' then .ok (.exponentMark (text ++ [c]), [])
    else if isIdentStart c then .error .unread
    else close s c
  | .fraction text =>
    if c.isDigit then .ok (.fraction (text ++ [c]), [])
    else if c = '.' ∧ text.getLast? = some '.' then
      -- two points after an integer are a token of their own
      .ok (.start, [.number (String.ofList text.dropLast), .symbol ".."])
    else if c = 'e' ∨ c = 'E' then .ok (.exponentMark (text ++ [c]), [])
    else if isIdentStart c then .error .unread
    else close s c
  | .exponentMark text =>
    if c = '+' ∨ c = '-' then .ok (.exponentSign (text ++ [c]), [])
    else if c.isDigit then .ok (.exponent (text ++ [c]), [])
    else .error .unread
  | .exponentSign text =>
    if c.isDigit then .ok (.exponent (text ++ [c]), []) else .error .unread
  | .exponent text =>
    if c.isDigit then .ok (.exponent (text ++ [c]), [])
    else if isIdentStart c then .error .unread
    else close s c
  | .operator name =>
    if (c = '-' ∧ name.getLast? = some '-') ∨ (c = '*' ∧ name.getLast? = some '/') then .error .unread
    else if isOperatorChar c then .ok (.operator (name ++ [c]), [])
    else close s c
  | .colon =>
    if c = ':' then .ok (.start, [.symbol "::"])
    else if c = '=' then .ok (.start, [.symbol ":="])
    else close s c
  | .dot =>
    if c = '.' then .ok (.start, [.symbol ".."])
    else if c.isDigit then .ok (.fraction ['.', c], [])
    else close s c

/-- Read a text from a state: the state it leads to, and the tokens that ended. -/
def run : State → List Char → Except Refusal (State × List Token)
  | s, [] => .ok (s, [])
  | s, c :: cs => do
    let (s', front) ← step s c
    let (s'', back) ← run s' cs
    return (s'', front ++ back)

/-- The tokens of the rest of a text. -/
def readFrom (s : State) (cs : List Char) : Except Refusal (List Token) := do
  let (s', front) ← run s cs
  let back ← finish s'
  return front ++ back

/-- **The tokens of a text.** -/
def tokens (cs : List Char) : Except Refusal (List Token) := readFrom .start cs

/-! ## Delimited identifiers -/

/-- The name from after the quote that opens it, and the text after the quote that ends it. -/
def quotedBody : List Char → Except Refusal (List Char × List Char)
  | [] => .error .unterminated
  | '"' :: '"' :: cs => do
    let (name, rest) ← quotedBody cs
    return ('"' :: name, rest)
  | '"' :: cs => .ok ([], cs)
  | c :: cs =>
    if c = nul then .error .nul
    else do
      let (name, rest) ← quotedBody cs
      return (c :: name, rest)

/-- **Read a delimited identifier** at the start of a text: the identifier, and the text after it. -/
def readDelimited : List Char → Except Refusal (Token × List Char)
  | '"' :: cs => do
    let (name, rest) ← quotedBody cs
    let token ← delimited name
    return (token, rest)
  | _ => .error .unread

/-- Write a name as a delimited identifier. -/
def quote (name : List Char) : List Char :=
  '"' :: (name.flatMap fun c => if c = '"' then ['"', '"'] else [c]) ++ ['"']

/-- The identifier a name is. -/
def identifier (name : List Char) : Except Refusal Token :=
  if nul ∈ name then .error .nul else delimited name

/-! ## Texts one after the other -/

theorem bind_eq_ok {ε α β : Type} {x : Except ε α} {f : α → Except ε β} {r : β} :
    x >>= f = .ok r ↔ ∃ a, x = .ok a ∧ f a = .ok r := by
  cases x with
  | error e =>
    constructor
    · intro h
      cases h
    · rintro ⟨a, h, _⟩
      cases h
  | ok a =>
    constructor
    · intro h
      exact ⟨a, rfl, h⟩
    · rintro ⟨a, h, hf⟩
      cases h
      exact hf

/-- **A text is read on from where the one before it has led to.** -/
theorem run_append {s s' : State} {xs : List Char} {front : List Token} (h : run s xs = .ok (s', front))
    (ys : List Char) :
    run s (xs ++ ys) = (run s' ys).map fun read => (read.1, front ++ read.2) := by
  induction xs generalizing s front with
  | nil =>
    obtain ⟨rfl, rfl⟩ := Prod.mk.inj (Except.ok.inj h)
    rw [List.nil_append]
    cases run s ys <;> rfl
  | cons x xs ih =>
    obtain ⟨⟨s₁, ts⟩, hstep, h⟩ := bind_eq_ok.mp h
    obtain ⟨⟨s₂, us⟩, hrest, h⟩ := bind_eq_ok.mp h
    obtain ⟨rfl, rfl⟩ := Prod.mk.inj (Except.ok.inj h)
    rw [List.cons_append, run, hstep]
    show (run s₁ (xs ++ ys) >>= fun read => .ok (read.1, ts ++ read.2)) = _
    rw [ih hrest]
    cases run s₂ ys with
    | error e => rfl
    | ok read =>
      show Except.ok (read.1, ts ++ (us ++ read.2)) = .ok (read.1, ts ++ us ++ read.2)
      rw [List.append_assoc]

/-- The tokens that ended come before those of the rest. -/
theorem readFrom_append {s s' : State} {xs : List Char} {front : List Token}
    (h : run s xs = .ok (s', front)) (ys : List Char) :
    readFrom s (xs ++ ys) = (readFrom s' ys).map (front ++ ·) := by
  unfold readFrom
  rw [run_append h]
  cases run s' ys with
  | error e => rfl
  | ok read =>
    obtain ⟨s'', back⟩ := read
    show (finish s'' >>= fun last => .ok (front ++ back ++ last)) =
      (finish s'' >>= fun last => .ok (back ++ last)).map (front ++ ·)
    cases finish s'' with
    | error e => rfl
    | ok last =>
      show Except.ok (front ++ back ++ last) = .ok (front ++ (back ++ last))
      rw [List.append_assoc]

/-- **The text is read**, from one state to another. -/
def Leads (s : State) (text : List Char) (s' : State) : Prop := ∃ read, run s text = .ok (s', read)

theorem leads_iff {s s' : State} {text : List Char} :
    (run s text).toOption.map Prod.fst = some s' ↔ Leads s text s' := by
  unfold Leads
  cases hrun : run s text with
  | error e =>
    constructor
    · intro h
      cases h
    · rintro ⟨read, h⟩
      cases h
  | ok result =>
    obtain ⟨s'', read⟩ := result
    constructor
    · intro h
      rw [show s'' = s' from Option.some.inj h]
      exact ⟨read, rfl⟩
    · rintro ⟨read, h⟩
      cases h
      rfl

instance (s s' : State) (text : List Char) : Decidable (Leads s text s') :=
  decidable_of_iff _ leads_iff

theorem Leads.trans {s s' s'' : State} {front back : List Char} (hfront : Leads s front s')
    (hback : Leads s' back s'') : Leads s (front ++ back) s'' := by
  obtain ⟨read, hread⟩ := hfront
  obtain ⟨read', hread'⟩ := hback
  refine ⟨read ++ read', ?_⟩
  rw [run_append hread, hread']
  rfl

/-- Where a character ends a token, the token is read, and then the rest from the start. -/
theorem readFrom_close {s : State} {c : Char} (h : step s c = close s c) (cs : List Char) :
    readFrom s (c :: cs) = do
      let ended ← finish s
      let rest ← tokens (c :: cs)
      return ended ++ rest := by
  have hstart : step .start c = startOn c := rfl
  unfold tokens readFrom
  rw [run, run, h, hstart]
  unfold close
  cases finish s with
  | error e => rfl
  | ok ended =>
    cases startOn c with
    | error e => rfl
    | ok first =>
      obtain ⟨s₁, ts⟩ := first
      show ((run s₁ cs >>= fun read => .ok (read.1, ended ++ ts ++ read.2)) >>= fun read =>
          finish read.1 >>= fun last => .ok (read.2 ++ last)) =
        ((run s₁ cs >>= fun read => .ok (read.1, ts ++ read.2)) >>= fun read =>
          finish read.1 >>= fun last => .ok (read.2 ++ last)) >>= fun rest => .ok (ended ++ rest)
      cases run s₁ cs with
      | error e => rfl
      | ok read =>
        show (finish read.1 >>= fun last => .ok (ended ++ ts ++ read.2 ++ last)) =
          (finish read.1 >>= fun last => .ok (ts ++ read.2 ++ last)) >>= fun rest => .ok (ended ++ rest)
        cases finish read.1 with
        | error e => rfl
        | ok last =>
          show Except.ok (ended ++ ts ++ read.2 ++ last) = .ok (ended ++ (ts ++ read.2 ++ last))
          rw [List.append_assoc ended, List.append_assoc ended]

/-! ## Names -/

/-- A quote that is not doubled ends an identifier. -/
theorem readFrom_quotedEnd (name : List Char) {cs : List Char} (h : cs.head? ≠ some '"') :
    readFrom (.quotedEnd name) cs = do
      let token ← delimited name
      let rest ← tokens cs
      return token :: rest := by
  cases cs with
  | nil =>
    show (finish (.quotedEnd name) >>= fun last => .ok ([] ++ last)) = _
    rw [finish]
    cases delimited name <;> rfl
  | cons c cs =>
    have hc : c ≠ '"' := fun hc => h (congrArg some hc)
    have hstep : step (.quotedEnd name) c = close (.quotedEnd name) c := if_neg hc
    rw [readFrom_close hstep, finish]
    cases delimited name <;> rfl

theorem readFrom_step {s s' : State} {c : Char} (h : step s c = .ok (s', [])) (cs : List Char) :
    readFrom s (c :: cs) = readFrom s' cs := by
  have hrun : run s [c] = .ok (s', []) := by
    rw [run, h]
    rfl
  have hread := readFrom_append hrun cs
  rw [List.singleton_append] at hread
  rw [hread]
  cases readFrom s' cs <;> rfl

/-- **The states read a delimited identifier** as far as `quotedBody` does. -/
theorem readFrom_quoted (name cs : List Char) :
    readFrom (.quoted name) cs = do
      let (body, rest) ← quotedBody cs
      let token ← delimited (name ++ body)
      let back ← tokens rest
      return token :: back := by
  induction cs using quotedBody.induct generalizing name with
  | case1 => rfl
  | case2 cs ih =>
    have hopen : step (.quoted name) '"' = .ok (.quotedEnd name, []) := rfl
    have hback : step (.quotedEnd name) '"' = .ok (.quoted (name ++ ['"']), []) := rfl
    rw [readFrom_step hopen, readFrom_step hback, ih, quotedBody]
    cases quotedBody cs with
    | error e => rfl
    | ok read =>
      show (delimited (name ++ ['"'] ++ read.1) >>= _) = (delimited (name ++ '"' :: read.1) >>= _)
      rw [List.append_assoc]
      rfl
  | case3 cs hdouble =>
    have hopen : step (.quoted name) '"' = .ok (.quotedEnd name, []) := rfl
    have hhead : cs.head? ≠ some '"' := by
      intro hhead
      obtain ⟨rest, rfl⟩ := List.head?_eq_some_iff.mp hhead
      exact hdouble rest rfl
    rw [readFrom_step hopen, readFrom_quotedEnd name hhead, quotedBody.eq_3 cs hdouble]
    show _ = (delimited (name ++ []) >>= _)
    rw [List.append_nil]
  | case4 cs hdouble hclose =>
    rw [quotedBody, if_pos rfl]
    · rfl
    · exact hdouble
    · exact hclose
  | case5 c cs hdouble hclose hnul ih =>
    have hgo : step (.quoted name) c = .ok (.quoted (name ++ [c]), []) := by
      show (if c = nul then _ else if c = '"' then _ else _) = _
      rw [if_neg hnul, if_neg hclose]
    rw [readFrom_step hgo, ih, quotedBody.eq_4 c cs hdouble hclose, if_neg hnul]
    cases quotedBody cs with
    | error e => rfl
    | ok read =>
      show (delimited (name ++ [c] ++ read.1) >>= _) = (delimited (name ++ c :: read.1) >>= _)
      rw [List.append_assoc]
      rfl

/-- **A text that starts with a quote starts with a delimited identifier.** -/
theorem tokens_delimited (cs : List Char) :
    tokens ('"' :: cs) = do
      let (token, rest) ← readDelimited ('"' :: cs)
      let back ← tokens rest
      return token :: back := by
  have hopen : step .start '"' = .ok (.quoted [], []) := rfl
  have hread : tokens ('"' :: cs) = readFrom (.quoted []) cs := readFrom_step hopen cs
  rw [hread, readFrom_quoted, readDelimited]
  cases quotedBody cs with
  | error e => rfl
  | ok read =>
    show (delimited read.1 >>= _) = ((delimited read.1 >>= _) >>= _)
    cases delimited read.1 <;> rfl

/-- Nothing of a name ends it, however its quotes stand. -/
theorem quotedBody_quote (name : List Char) {k : List Char} (hk : k.head? ≠ some '"') :
    quotedBody ((name.flatMap fun c => if c = '"' then ['"', '"'] else [c]) ++ '"' :: k) =
      if nul ∈ name then .error .nul else .ok (name, k) := by
  induction name with
  | nil =>
    have hclose : ∀ rest, k = '"' :: rest → False := by
      rintro rest rfl
      exact hk rfl
    exact quotedBody.eq_3 k hclose
  | cons c name ih =>
    rw [List.flatMap_cons, List.append_assoc]
    by_cases hc : c = '"'
    · subst hc
      have hmem : nul ∈ '"' :: name ↔ nul ∈ name := by
        rw [List.mem_cons, or_iff_right (by decide)]
      rw [if_pos rfl]
      simp only [List.cons_append, List.nil_append]
      rw [quotedBody, ih]
      simp only [hmem]
      split <;> rfl
    · rw [if_neg hc, List.singleton_append, quotedBody.eq_4 c _ (fun _ h _ => hc h) hc, ih]
      by_cases hnul : c = nul
      · rw [if_pos hnul, if_pos (hnul ▸ List.mem_cons_self)]
      · have hmem : nul ∈ c :: name ↔ nul ∈ name := by
          rw [List.mem_cons, or_iff_right (fun h => hnul h.symm)]
        rw [if_neg hnul]
        simp only [hmem]
        split <;> rfl

/-- **A quoted name is read as that name**, and what follows it is left. -/
theorem readDelimited_quote (name : List Char) {k : List Char} (hk : k.head? ≠ some '"') :
    readDelimited (quote name ++ k) = (identifier name).map fun token => (token, k) := by
  unfold quote
  rw [List.cons_append, List.cons_append, List.append_assoc, List.singleton_append, readDelimited,
    quotedBody_quote name hk]
  unfold identifier
  split
  · rfl
  · show (delimited name >>= _) = _
    cases delimited name <;> rfl

/-- A quoted name is one token, and what follows it is read on its own. -/
theorem tokens_quote (name : List Char) {k : List Char} (hk : k.head? ≠ some '"') :
    tokens (quote name ++ k) = do
      let token ← identifier name
      let back ← tokens k
      return token :: back := by
  have hquote : quote name ++ k = '"' :: ((quote name).tail ++ k) := rfl
  rw [hquote, tokens_delimited, ← hquote, readDelimited_quote name hk]
  cases identifier name <;> rfl

/-! ## Names within a statement -/

/-- **A quote after this text opens an identifier**, and these are the tokens before it. -/
def Opens (front : List Char) (read : List Token) : Prop :=
  run .start (front ++ ['"']) = .ok (.quoted [], read)

instance (front : List Char) (read : List Token) : Decidable (Opens front read) :=
  inferInstanceAs (Decidable (_ = _))

/-- **A name is one token of the statement it is in.** -/
theorem tokens_opens {front : List Char} {read : List Token} (h : Opens front read) (name : List Char)
    {k : List Char} (hk : k.head? ≠ some '"') :
    tokens (front ++ (quote name ++ k)) = do
      let token ← identifier name
      let back ← tokens k
      return read ++ token :: back := by
  have hopen : step .start '"' = .ok (.quoted [], []) := rfl
  have hname : tokens (quote name ++ k) = readFrom (.quoted []) ((quote name).tail ++ k) :=
    readFrom_step hopen _
  have htext : front ++ (quote name ++ k) = (front ++ ['"']) ++ ((quote name).tail ++ k) := by
    rw [List.append_assoc]
    rfl
  rw [htext, tokens, readFrom_append h, ← hname, tokens_quote name hk]
  cases identifier name with
  | error e => rfl
  | ok token => cases tokens k <;> rfl

/-- A name at the end of a statement. -/
theorem tokens_opens_last {front : List Char} {read : List Token} (h : Opens front read)
    (name : List Char) :
    tokens (front ++ quote name) = (identifier name).map fun token => read ++ [token] := by
  have hname := tokens_opens h name (k := []) (by decide)
  rw [List.append_nil] at hname
  rw [hname]
  cases identifier name <;> rfl

/-- A text that is read goes on from where it has led to. -/
theorem tokens_append {front : List Char} {read : List Token} (h : run .start front = .ok (.start, read))
    (k : List Char) : tokens (front ++ k) = (tokens k).map (read ++ ·) :=
  readFrom_append h k

/-- Whether a text is there that does not start with a quote. -/
def startsPlain (text : List Char) : Bool := text.head?.any (· ≠ '"')

theorem head?_append_ne {text : List Char} (h : startsPlain text = true) (k : List Char) :
    (text ++ k).head? ≠ some '"' := by
  cases text with
  | nil => cases h
  | cons c cs =>
    intro heq
    exact of_decide_eq_true h (Option.some.inj heq)

/-- **A name can stand between these texts**: each opens it, none goes on with it, and the last is read to its
    end. -/
def fits : List (List Char) → Bool
  | [] => false
  | [last] => (tokens last).isOk
  | front :: text :: texts =>
    Leads .start (front ++ ['"']) (.quoted []) && startsPlain text && fits (text :: texts)

/-- **A name is the same token wherever it stands**, and no other token depends on it. -/
theorem tokens_of_fits {texts : List (List Char)} (h : fits texts = true) :
    ∃ reads : List (List Token), reads ≠ [] ∧ ∀ name token, identifier name = .ok token →
      tokens ((quote name).intercalate texts) = .ok ([token].intercalate reads) := by
  induction texts using fits.induct with
  | case1 => cases h
  | case2 last =>
    rw [fits] at h
    cases hlast : tokens last with
    | error e =>
      rw [hlast] at h
      cases h
    | ok read =>
      refine ⟨[read], List.cons_ne_nil _ _, fun name token _ => ?_⟩
      rw [List.intercalate_singleton, List.intercalate_singleton, hlast]
  | case3 front text texts ih =>
    rw [fits, Bool.and_eq_true, Bool.and_eq_true] at h
    obtain ⟨⟨hopens, hhead⟩, hrest⟩ := h
    have hleads : Leads .start (front ++ ['"']) (.quoted []) := of_decide_eq_true hopens
    obtain ⟨read, hread⟩ := hleads
    obtain ⟨reads, hne, hreads⟩ := ih hrest
    refine ⟨read :: reads, List.cons_ne_nil _ _, fun name token hname => ?_⟩
    have hafter : ((quote name).intercalate (text :: texts)).head? ≠ some '"' := by
      cases texts with
      | nil =>
        have hlast := head?_append_ne hhead []
        rw [List.append_nil] at hlast
        rw [List.intercalate_singleton]
        exact hlast
      | cons =>
        rw [List.intercalate_cons_cons, List.append_assoc]
        exact head?_append_ne hhead _
    rw [List.intercalate_cons_cons, List.append_assoc, tokens_opens hread name hafter, hname,
      hreads name token hname, List.intercalate_cons_of_ne_nil hne, List.append_assoc]
    rfl

/-- A comma ends a token, whatever it is. -/
theorem step_comma {s : State} {read : List Token} (h : finish s = .ok read) :
    step s ',' = close s ',' := by
  cases s with
  | quoted _ | string _ _ | escape _ | exponentMark _ | exponentSign _ => cases h
  | _ => rfl

/-- **Texts with a comma between them are read one by one.** -/
theorem tokens_comma {front : List Char} {read : List Token} (h : tokens front = .ok read)
    (k : List Char) : tokens (front ++ ',' :: k) = (tokens k).map (read ++ .symbol "," :: ·) := by
  obtain ⟨⟨s, ended⟩, hrun, h⟩ := bind_eq_ok.mp h
  obtain ⟨last, hlast, h⟩ := bind_eq_ok.mp h
  have hread : ended ++ last = read := Except.ok.inj h
  have hsymbol : run .start [','] = .ok (.start, [.symbol ","]) := rfl
  have hcomma : tokens (',' :: k) = (tokens k).map ([.symbol ","] ++ ·) := tokens_append hsymbol k
  rw [tokens, readFrom_append hrun, readFrom_close (step_comma hlast), hlast, hcomma, ← hread]
  cases tokens k with
  | error e => rfl
  | ok back =>
    show Except.ok (ended ++ (last ++ ([.symbol ","] ++ back))) = .ok (ended ++ last ++ .symbol "," :: back)
    rw [List.append_assoc]
    rfl

/-! ## Texts whose tokens do not matter -/

/-- A text is read if it leads to where a statement can end. -/
theorem Leads.isOk_tokens {text : List Char} {s : State} (h : Leads .start text s)
    (hend : (finish s).isOk = true) : (tokens text).isOk = true := by
  obtain ⟨read, hread⟩ := h
  unfold tokens readFrom
  rw [hread]
  show ((finish s) >>= fun last => .ok (read ++ last)).isOk = true
  cases hlast : finish s with
  | error e =>
    rw [hlast] at hend
    cases hend
  | ok last => rfl

/-- **Digits go on with a number** in every state in which one does. -/
theorem leads_digits {grow : List Char → State}
    (hgrow : ∀ text c, c.isDigit = true → step (grow text) c = .ok (grow (text ++ [c]), []))
    (text : List Char) {digits : List Char} (h : ∀ c ∈ digits, c.isDigit = true) :
    Leads (grow text) digits (grow (text ++ digits)) := by
  induction digits generalizing text with
  | nil =>
    rw [List.append_nil]
    exact ⟨[], rfl⟩
  | cons c digits ih =>
    have hfirst : Leads (grow text) [c] (grow (text ++ [c])) := by
      refine ⟨[], ?_⟩
      rw [run, hgrow text c (h c List.mem_cons_self)]
      rfl
    have hrest := ih (text ++ [c]) fun d hd => h d (List.mem_cons_of_mem c hd)
    rw [List.append_assoc] at hrest
    exact hfirst.trans hrest

end SqlLexer

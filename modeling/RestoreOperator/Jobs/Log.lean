import Mathlib.Data.List.Infix
import RestoreOperator.Base.Occurrences
import RestoreOperator.Base.Utf8
import RestoreOperator.Objects.Uuid
import RestoreOperator.Replica.ExtraUsers

/-!
# `Jobs.Log` — what is recorded of a failed Job's log

The log of a failed Job is cut to its last part, the secrets its pod was handed are masked in it, and its
tail is kept for a status field.  Texts are cut at byte offsets; `none` stands for the panic of a cut inside
a character.
-/

namespace RestoreOperator

open Occurrences Utf8

/-! ## Texts -/

/-- The length of a text in bytes. -/
def len (s : String) : Nat := byteLen s.toList

/-- Whether a word occurs in a text. -/
def contains (s word : String) : Bool := word.toList <:+: s.toList

/-- Whether a text starts with a word. -/
def startsWith (s word : String) : Bool := word.toList <+: s.toList

/-- Replace every occurrence of a word. -/
def replaceAll (s word mark : String) : String :=
  String.ofList (replace word.toList mark.toList s.toList)

/-- A text without the white space before it. -/
def trimStart (s : String) : String := String.ofList (s.toList.dropWhile isWhiteSpace)

/-- A text without a character at its end, which is there. -/
def stripSuffix (c : Char) (cs : List Char) : Option (List Char) :=
  if cs.getLast? = some c then some cs.dropLast else none

/-- The parts of a text that end with a character, and what comes after the last of them. -/
def splitInclusive (sep : Char) : List Char → List (List Char)
  | [] => []
  | c :: cs =>
    if c = sep then [c] :: splitInclusive sep cs
    else
      match splitInclusive sep cs with
      | [] => [[c]]
      | part :: parts => (c :: part) :: parts

/-- The lines of a text, without their ends. -/
def lines (s : String) : List String :=
  (splitInclusive '\n' s.toList).map fun line =>
    String.ofList <|
      match stripSuffix '\n' line with
      | none => line
      | some line => (stripSuffix '\r' line).getD line

/-! ## Masking -/

/-- The ASCII characters that are encoded; all others are anyway. -/
abbrev AsciiSet := Char → Bool

/-- Every ASCII character but the letters and digits. -/
def nonAlphanumeric : AsciiSet := fun c => !c.isAlphanum

/-- What URL encoders leave alone: RFC 3986's unreserved characters. -/
def urlComponent : AsciiSet := fun c => nonAlphanumeric c && c ∉ ['-', '.', '_', '~']

/-- **What masking takes from libraries**: `strip` removes the ANSI escapes of a text, of which it makes a
    text again. -/
structure LogText where
  strip : String → String
  utf8PercentEncode : String → AsciiSet → String

def redacted : String := "[redacted]"

/-- Comfortably more than `logTail` keeps. -/
def redactWindow : Nat := 64 * 1024

/-- Mask a secret, as it is and in the forms a URL carries it. -/
def maskSecret (text : LogText) (log secret : String) : String :=
  [nonAlphanumeric, urlComponent].foldl
    (fun log set => replaceAll log (text.utf8PercentEncode secret set) redacted)
    (replaceAll log secret redacted)

/-- **The last part of a log with every secret masked.** -/
def redact (text : LogText) (log : String) (secrets : List String) : Option String :=
  -- the offset moves on to the next boundary, and the end of the log is one
  let start := (firstBoundary log.toList (len log - redactWindow) (len log)).getD (len log)
  (sliceFrom log.toList start).map fun window =>
    (secrets.filter fun secret => secret ≠ "").foldl (maskSecret text)
      (text.strip (String.ofList window))

/-! ## The tail -/

def keepLines : Nat := 40
def maxBytes : Nat := 2000
def maxHeadlineBytes : Nat := 500

/-- The words that name an error. -/
def errorMarkers : List String :=
  ["Error:", "ERROR:", "error:", "Error [", "DatabaseError", "SequelizeDatabaseError",
    "Database Error in", "Compilation Error in", "Runtime Error in", "Failure in model"]

/-- Whether a line names an error. -/
def isErrorHeadline (line : String) : Bool :=
  let line := trimStart line
  errorMarkers.any fun marker => startsWith line marker || contains line (" " ++ marker)

/-- A text, or as much of it as fits. -/
def truncateTo (text : String) (maxBytes : Nat) : Option String :=
  if len text ≤ maxBytes then some text
  else
    (sliceTo text.toList ((lastBoundary text.toList maxBytes).getD 0)).map String.ofList

/-- The last lines of a log. -/
def tailLines (log : String) : String :=
  Delimited.join '\n' ((lines log).drop ((lines log).length - keepLines))

/-- The first line that names an error, where the tail does not hold it for sure: it comes before the last
    lines, or these are too long. -/
def headlineOf (log : String) : Option (Option String) :=
  let at_ := ((lines log).findIdx? isErrorHeadline).filter fun i =>
    i < (lines log).length - keepLines || len (tailLines log) > maxBytes
  match at_ with
  | none => some none
  | some i => do
    let line ← (lines log)[i]?
    let headline ← truncateTo (trim line) maxHeadlineBytes
    return some headline

/-- What stands between the headline and the tail. -/
def ellipsis : String := "\n…\n"

/-- The bytes that are left for the tail. -/
def budgetWith (headline : Option String) : Nat :=
  match headline with
  | some headline => maxBytes - (len headline + len ellipsis)
  | none => maxBytes

/-- The end of a text that fits a budget. -/
def keepEnd (tail : String) (budget : Nat) : Option String :=
  if len tail ≤ budget then some tail
  else
    let cut := (firstBoundary tail.toList (len tail - budget) (len tail)).getD (len tail)
    (sliceFrom tail.toList cut).map String.ofList

/-- What is kept of the tail, with the headline ahead of it unless it is in there. -/
def withHeadline (headline : Option String) (kept : String) : String :=
  match headline with
  | some headline => if contains kept headline then kept else headline ++ ellipsis ++ kept
  | none => kept

/-- **The tail of a log**, with the first line that names an error ahead of it unless the tail holds it. -/
def logTail (log : String) : Option String := do
  let headline ← headlineOf log
  let kept ← keepEnd (tailLines log) (budgetWith headline)
  return withHeadline headline kept

/-! ## A failed schema build -/

def buildFailed : String := "the build job failed"

/-- **What a failed build records**: the tail of its log, masked; the log is left out without the secrets
    to mask by. -/
def buildFailure (text : LogText) (log : Option String) (secrets : Option (List String)) :
    Option String :=
  match log, secrets with
  | none, _ => some buildFailed
  | some _, none =>
    some (buildFailed ++ " (log withheld: its secrets could not be read to mask it)")
  | some log, some secrets => do
    let log ← redact text log secrets
    let tail ← logTail log
    return if tail = "" then buildFailed else buildFailed ++ ":\n" ++ tail

/-! ## Generated secrets -/

/-- The characters of a password. -/
def passwordChars : List Char :=
  "abcdefghijklmnopqrstuvwxyzABCDEFGHIJKLMNOPQRSTUVWXYZ0123456789".toList

/-- **A generated password**, from the random numbers that are drawn. -/
def generatePassword (randomRange : Nat → Fin 62) : String :=
  String.ofList ((List.range 32).map fun i => passwordChars.get (randomRange i))

end RestoreOperator

import IncidentTriage.Python.Json

/-! # Sanitizing untrusted text from telemetry

Log lines, commit messages and configuration keys are untrusted: terminal escape
sequences and control characters are dropped, and the length is bounded, before
anything reaches a normalized payload.
-/

namespace IncidentTriage.Evidence

open IncidentTriage.Python

/-- Where a scan for escape sequences stands: `introduced` follows an escape character and a
bracket, with the characters that the sequence drops if it comes to its end. -/
inductive AnsiScan where
  | text
  | escape
  | introduced (intermediate : Bool) (pending : List Char)

def escapeChar : Char := Char.ofNat 0x1b

def isParameterByte (c : Char) : Bool := isAsciiDigit c || c == ';' || c == '?'
where isAsciiDigit (c : Char) : Bool := '0' ≤ c && c ≤ '9'
def isIntermediateByte (c : Char) : Bool := ' ' ≤ c && c ≤ '/'
def isFinalByte (c : Char) : Bool := '@' ≤ c && c ≤ '~'

/-- `_ANSI_ESCAPE.sub("", …)`.  The first alternative of the pattern needs a final byte; where
there is none the second one drops the escape character and the bracket alone. -/
def dropEscapes : AnsiScan → List Char → List Char
  | .text, [] => []
  | .text, c :: cs => if c == escapeChar then dropEscapes .escape cs else c :: dropEscapes .text cs
  | .escape, [] => [escapeChar]
  | .escape, c :: cs =>
    if c == '[' then dropEscapes (.introduced false []) cs
    else if '@' ≤ c && c ≤ '_' then dropEscapes .text cs
    else if c == escapeChar then escapeChar :: dropEscapes .escape cs
    else escapeChar :: c :: dropEscapes .text cs
  | .introduced _ pending, [] => pending.reverse
  | .introduced intermediate pending, c :: cs =>
    if isFinalByte c then dropEscapes .text cs
    else if isIntermediateByte c then dropEscapes (.introduced true (c :: pending)) cs
    else if isParameterByte c && !intermediate then
      dropEscapes (.introduced false (c :: pending)) cs
    else if c == escapeChar then pending.reverse ++ dropEscapes .escape cs
    else pending.reverse ++ c :: dropEscapes .text cs

/-- The characters of `_CONTROL`: all below the blank but tab and newline, and delete. -/
def isControl (c : Char) : Bool :=
  c.toNat ≤ 0x08 || (0x0b ≤ c.toNat && c.toNat ≤ 0x1f) || c.toNat == 0x7f

def ellipsis : Char := Char.ofNat 0x2026

def cleanText (value : String) (maxChars : Nat) : String :=
  let cleaned := (dropEscapes .text value.toList).filter (fun c => !isControl c)
  String.ofList (if maxChars < cleaned.length then cleaned.take (maxChars - 1) ++ [ellipsis]
    else cleaned)

end IncidentTriage.Evidence

import IncidentTriage.Evidence.Sanitize
import IncidentTriage.Python.Text

/-! # The commit evidence

The adapter runs `git log` with a format that separates commits by one control character and
the fields of a commit by another, and reads back what is printed.  Two operations are built
on it; the one for the changes of a commit asks for the log from that commit on, one entry
long.
-/

namespace IncidentTriage.Evidence

open IncidentTriage.Python

def maxFilesPerCommit : Nat := 50

/-- `_RECORD` and `_FIELD`. -/
def recordMark : Char := Char.ofNat 0x1e
def fieldMark : Char := Char.ofNat 0x1f

/-- A changed file; a binary one has no counts. -/
structure ChangedFile where
  path : String
  additions : Option Nat
  deletions : Option Nat
  deriving DecidableEq

structure Commit where
  sha : String
  author : String
  authoredAt : String
  committedAt : String
  subject : String
  files : List ChangedFile
  deriving DecidableEq

/-! ## What is printed -/

def countText : Option Nat → List Char
  | some n => Nat.toDigits 10 n
  | none => ['-']

def fileLine (file : ChangedFile) : List Char :=
  countText file.additions ++ '\t' :: countText file.deletions ++ '\t' :: file.path.toList

/-- The line of a commit that the format asks for. -/
def headerLine (commit : Commit) : List Char :=
  commit.sha.toList ++ fieldMark :: commit.author.toList ++
    fieldMark :: commit.authoredAt.toList ++ fieldMark :: commit.committedAt.toList ++
    fieldMark :: commit.subject.toList

/-- The counts of the changed files, after an empty line. -/
def numstatText (files : List ChangedFile) : List Char :=
  if files.isEmpty then [] else '\n' :: files.flatMap (fun file => fileLine file ++ ['\n'])

def commitText (commit : Commit) : List Char :=
  headerLine commit ++ '\n' :: numstatText commit.files

/-- What `git log` prints of these commits. -/
def printLog (commits : List Commit) : List Char :=
  commits.flatMap (fun commit => recordMark :: commitText commit)

/-! ## What is read -/

/-- `int(text) if text.isdigit() else None`; `none` where `int` raises. -/
def readCount (text : List Char) : Option (Option Nat) :=
  if isDigitText text then (numeral text).map some else some none

/-- The files of the lines that have two tabs. -/
def readLines : List (List Char) → Option (List ChangedFile)
  | [] => some []
  | line :: lines =>
    match line.splitOn '\t' with
    | [added, deleted, path] => do
      let additions ← readCount added
      let deletions ← readCount deleted
      let files ← readLines lines
      some ({ path := String.ofList path, additions, deletions } :: files)
    | _ => readLines lines

def readFiles (rest : List Char) : Option (List ChangedFile) :=
  readLines (splitLines (stripText rest))

/-- A block of the output: its first line, and the files after it. -/
def readCommit (block : List Char) : Option Commit :=
  let header := block.takeWhile (fun c => c != '\n')
  let rest := (block.dropWhile (fun c => c != '\n')).tail
  match splitAtMost fieldMark 4 header with
  | [sha, author, authored, committed, subject] => do
    let files ← readFiles rest
    some
      { sha := String.ofList sha
        author := String.ofList author
        authoredAt := String.ofList authored
        committedAt := String.ofList committed
        subject := String.ofList subject
        files }
  | _ => none

/-- The blocks that are not blank. -/
def readBlocks : List (List Char) → Option (List Commit)
  | [] => some []
  | block :: blocks =>
    if (stripText block).isEmpty then readBlocks blocks
    else do
      let commit ← readCommit block
      let commits ← readBlocks blocks
      some (commit :: commits)

/-- The commits in the output, as they are before their text is cleaned; `none` where a block
has not all its fields. -/
def readLog (output : List Char) : Option (List Commit) :=
  readBlocks ((universalNewlines output).splitOn recordMark)

def ChangedFile.cleaned (file : ChangedFile) : ChangedFile :=
  { file with path := cleanText file.path 200 }

def Commit.cleaned (commit : Commit) : Commit :=
  { commit with
    author := cleanText commit.author 80
    subject := cleanText commit.subject 200
    files := commit.files.map ChangedFile.cleaned }

/-- `_log`, from the output of the command. -/
def logOf (output : List Char) : Option (List Commit) :=
  (readLog output).map (List.map Commit.cleaned)

/-! ## The changes of a commit, or of a window -/

inductive GitError where
  | invalidQuery (message : String)
  | scopeViolation (message : String)
  | unavailable (message : String)
  deriving DecidableEq

/-- The arguments after `--numstat`. -/
inductive LogRange where
  | fromCommit (sha : String)
  | between (since until_ : Time) (limit : Nat)

/-- `SHA.match`: the end of the pattern may stand before a last newline. -/
def matchesSha (sha : String) : Bool :=
  let body := if sha.toList.getLast? == some '\n' then sha.toList.dropLast else sha.toList
  7 ≤ body.length && body.length ≤ 40 &&
    body.all (fun c => ('0' ≤ c && c ≤ '9') || ('a' ≤ c && c ≤ 'f'))

structure DiffSummary where
  filesChanged : Nat
  additions : Nat
  deletions : Nat
  deriving DecidableEq

def diffSummary (files : List ChangedFile) : DiffSummary :=
  { filesChanged := files.length
    additions := (files.map (fun file => file.additions.getD 0)).sum
    deletions := (files.map (fun file => file.deletions.getD 0)).sum }

structure CommitChanges where
  commit : Commit
  diffSummary : DiffSummary
  deriving DecidableEq

/-- A commit with no more files than fit, summed up. -/
def changesOf (commit : Commit) : CommitChanges :=
  let files := commit.files.take maxFilesPerCommit
  { commit := { commit with files }, diffSummary := diffSummary files }

/-- What `code_changes` observes. -/
structure CodeChanges where
  service : String
  paths : List String
  window : Option (Time × Time)
  sha : Option String
  commits : List CommitChanges
  totals : DiffSummary
  summary : String
  rawTruncated : Bool
  resultCount : Nat

def totalsOf (commits : List CommitChanges) : DiffSummary :=
  { filesChanged := (commits.map (·.diffSummary.filesChanged)).sum
    additions := (commits.map (·.diffSummary.additions)).sum
    deletions := (commits.map (·.diffSummary.deletions)).sum }

def notTouchedSummary (sha service : String) : String :=
  "commit " ++ sha ++ " does not touch " ++ service ++ "'s paths"

def changesSummary (service : String) (commits : List CommitChanges) : String :=
  let totals := totalsOf commits
  toString commits.length ++ " commit(s) touching " ++ service ++ ": " ++
    toString totals.filesChanged ++ " file(s), +" ++ toString totals.additions ++ "/-" ++
    toString totals.deletions

/-- `_log` on the range and the paths of a service, given the command. -/
def logPaths (log : LogRange → List String → Except GitError (List Commit)) (range : LogRange)
    (paths : List String) : Except GitError (List Commit) :=
  if paths.isEmpty then
    .error (.scopeViolation "service has no repository paths in the service catalog")
  else log range paths

/-- The range that is asked for: from a commit on, or of the window. -/
def rangeOf (start end_ : Time) (sha : Option String) (limit : Nat) : Except GitError LogRange :=
  match sha with
  | some sha =>
    if matchesSha sha then .ok (.fromCommit sha)
    else .error (.invalidQuery "sha must be 7-40 lowercase hex characters")
  | none => .ok (.between start end_ limit)

/-- What is observed of the commits that were logged. -/
def observeChanges (service : String) (paths : List String) (start end_ : Time)
    (sha : Option String) (limit : Nat) (logged : List Commit) : CodeChanges :=
  let commits := logged.map changesOf
  let filesTruncated := logged.any (fun commit => maxFilesPerCommit < commit.files.length)
  { service
    paths
    window := if sha.isSome then none else some (start, end_)
    sha
    commits
    totals := totalsOf commits
    summary :=
      if commits.isEmpty && sha.isSome then notTouchedSummary (sha.getD "") service
      else changesSummary service commits
    rawTruncated := filesTruncated || (sha.isNone && limit ≤ commits.length)
    resultCount := commits.length }

/-- `code_changes`, given `_log`. -/
def codeChanges (log : LogRange → List String → Except GitError (List Commit)) (service : String)
    (paths : List String) (start end_ : Time) (sha : Option String) (limit : Nat) :
    Except GitError CodeChanges := do
  let range ← rangeOf start end_ sha limit
  let logged ← logPaths log range paths
  pure (observeChanges service paths start end_ sha limit logged)

end IncidentTriage.Evidence

import IncidentTriage.Evidence.Git

/-! # Reading the log back

The output of the command is divided at two control characters and at the line breaks of
Python's text handling.  Each commit is read by itself (`readLog_printLog`), and it is read as
what was printed unless one of its own texts holds such a mark.
-/

namespace IncidentTriage.Verified

open IncidentTriage.Python IncidentTriage.Evidence

/-! ## What git prints -/

def isHexDigit (c : Char) : Bool := ('0' ≤ c && c ≤ '9') || ('a' ≤ c && c ≤ 'f')

/-- The characters of a date in the strict format. -/
def isDateChar (c : Char) : Bool := ('0' ≤ c && c ≤ '9') || ['-', ':', '+', 'T', 'Z'].contains c

/-- A path of no other characters is printed as it is. -/
def isUnquoted (c : Char) : Bool := 0x20 ≤ c.toNat && c.toNat != 0x7f && c != '"' && c != '\\'

/-- A commit that git can print: its author and its subject are any text of one line, and its
paths any that is not quoted. -/
structure PrintableCommit extends Commit where
  identified : sha ≠ "" ∧ ∀ c ∈ sha.toList, isHexDigit c = true
  dated : ∀ c ∈ authoredAt.toList ++ committedAt.toList, isDateChar c = true
  oneLine : '\n' ∉ author.toList ∧ '\n' ∉ subject.toList
  unquoted : ∀ file ∈ files, file.path ≠ "" ∧ ∀ c ∈ file.path.toList, isUnquoted c = true
  counted : ∀ file ∈ files, ∀ n, n ∈ file.additions ∨ n ∈ file.deletions → n < 2 ^ 64

/-! ## The property -/

/-- The output is read as the commits it was printed for, and these are returned with their
text cleaned. -/
structure ReadsBack (commits : List Commit) : Prop where
  read : readLog (printLog commits) = some commits
  returned : logOf (printLog commits) = some (commits.map Commit.cleaned)

/-- No text of the commit holds what is taken for a mark or a line break, and its last path
does not end with white space. -/
structure Legible (c : Commit) : Prop where
  author : recordMark ∉ c.author.toList ∧ fieldMark ∉ c.author.toList ∧ '\r' ∉ c.author.toList
  subject : recordMark ∉ c.subject.toList ∧ '\r' ∉ c.subject.toList
  paths : ∀ file ∈ c.files, ∀ ch ∈ file.path.toList, isLineBreak ch = false
  last : ∀ file ∈ c.files.getLast?, ∀ ch ∈ file.path.toList.getLast?, isSpace ch = false

/-! ## The lines of the files -/

theorem ink_of_isUnquoted {c : Char} (unquoted : isUnquoted c = true) : 0x20 ≤ c.toNat := by
  simp only [isUnquoted, Bool.and_eq_true, decide_eq_true_eq] at unquoted
  exact unquoted.1.1.1

theorem not_mem_unquoted {text : List Char} (unquoted : ∀ c ∈ text, isUnquoted c = true)
    {c : Char} (low : c.toNat < 0x20) : c ∉ text :=
  fun member => absurd (ink_of_isUnquoted (unquoted c member)) (Nat.not_le.mpr low)

theorem mem_countText {count : Option Nat} {c : Char} (member : c ∈ countText count) :
    c.isDigit = true ∨ c = '-' := by
  cases count with
  | none => exact .inr (List.mem_singleton.mp member)
  | some n => exact .inl (isDigit_of_mem_toDigits c member)

theorem countText_ne_nil (count : Option Nat) : countText count ≠ [] := by
  cases count with
  | none => exact List.cons_ne_nil _ _
  | some n => exact Nat.toDigits_ne_nil

/-- The characters of a count are neither white space nor marks. -/
theorem range_of_mem_countText {count : Option Nat} {c : Char} (member : c ∈ countText count) :
    0x2d ≤ c.toNat ∧ c.toNat ≤ 0x39 := by
  rcases mem_countText member with digit | rfl
  · simp only [Char.isDigit, Bool.and_eq_true, decide_eq_true_eq] at digit
    have low : 48 ≤ c.toNat := digit.1
    have high : c.toNat ≤ 57 := digit.2
    omega
  · decide

theorem isSpace_of_range {c : Char} (low : 0x20 < c.toNat) (high : c.toNat < 0x7f) :
    isSpace c = false := by
  simp only [isSpace, Bool.or_eq_false_iff, Bool.and_eq_false_iff, decide_eq_false_iff_not,
    List.contains_eq_mem, List.mem_cons, List.not_mem_nil, or_false]
  omega

theorem ink_of_mem_countText {count : Option Nat} {c : Char} (member : c ∈ countText count) :
    isSpace c = false := by
  obtain ⟨low, high⟩ := range_of_mem_countText member
  exact isSpace_of_range (by omega) (by omega)

theorem isLineBreak_of_not_isSpace {c : Char} (ink : isSpace c = false) :
    isLineBreak c = false := by
  by_contra break_
  rw [isSpace_of_isLineBreak (by simpa using break_)] at ink
  cases ink

theorem readCount_countText {count : Option Nat} (small : ∀ n ∈ count, n < 2 ^ 64) :
    readCount (countText count) = some count := by
  cases count with
  | none => rfl
  | some n =>
    have fits : n < 10 ^ maxNumeralDigits :=
      Nat.lt_of_lt_of_le (small n rfl) (Nat.le_trans (by decide : 2 ^ 64 ≤ 10 ^ 20)
        (Nat.pow_le_pow_right (by decide) (by decide)))
    rw [countText, readCount, if_pos (isDigitText_toDigits n), numeral_toDigits fits]
    rfl

theorem readLines_append (first rest : List (List Char)) :
    readLines (first ++ rest) =
      (readLines first).bind (fun files => (readLines rest).map (files ++ ·)) := by
  induction first with
  | nil => simp [readLines]
  | cons line first ih =>
    rw [List.cons_append, readLines, readLines]
    split
    · next added deleted path _ =>
      rw [ih]
      cases readCount added <;> cases readCount deleted <;> cases readLines first <;>
        cases readLines rest <;> rfl
    · exact ih

/-- Lines without a tab name no file. -/
theorem readLines_of_no_tab {lines : List (List Char)} (none : ∀ line ∈ lines, '\t' ∉ line) :
    readLines lines = some [] := by
  induction lines with
  | nil => rfl
  | cons line lines ih =>
    rw [readLines, List.splitOn_eq_singleton (none line List.mem_cons_self)]
    exact ih fun other member => none other (List.mem_cons_of_mem _ member)

/-- An empty line at the end does not count. -/
theorem readLines_splitLines {text : List Char} (translated : '\r' ∉ text) :
    readLines (splitLines text) = readLines (text.splitOnP isLineBreak) := by
  simp only [splitLines, universalNewlines_of_not_mem translated]
  split_ifs with empty
  · have whole := List.dropLast_append_getLast? [] empty
    nth_rewrite 2 [← whole]
    rw [readLines_append]
    cases readLines (text.splitOnP isLineBreak).dropLast <;> simp [readLines, List.splitOn]
  · rfl

/-- The first of the lines that a path is broken into. -/
def shownPath (path : List Char) : List Char := path.takeWhile (fun c => !isLineBreak c)

def shown (file : ChangedFile) : ChangedFile :=
  { file with path := String.ofList (shownPath file.path.toList) }

/-- The counts before a path, with the tab after each. -/
def countColumns (file : ChangedFile) : List Char :=
  countText file.additions ++ '\t' :: countText file.deletions ++ ['\t']

theorem fileLine_eq (file : ChangedFile) :
    fileLine file = countColumns file ++ file.path.toList := by
  simp [fileLine, countColumns]

theorem not_mem_countText {count : Option Nat} {c : Char} (low : c.toNat < 0x2d) :
    c ∉ countText count :=
  fun member => absurd (range_of_mem_countText member).1 (Nat.not_le.mpr low)

/-- A line of three columns is read as its file; the lines after the first have no tabs. -/
theorem readLines_fileLine {file : ChangedFile} {path : List Char} (tabs : '\t' ∉ path)
    (small : ∀ n, n ∈ file.additions ∨ n ∈ file.deletions → n < 2 ^ 64) :
    readLines ((countColumns file ++ path).splitOnP isLineBreak) =
      some [{ file with path := String.ofList (shownPath path) }] := by
  have columns : ∀ shown lines, '\t' ∉ shown → (∀ line ∈ lines, '\t' ∉ line) →
      readLines ((countColumns file ++ shown) :: lines) =
        some [{ file with path := String.ofList shown }] := by
    intro shown lines bare rest
    have split : (countColumns file ++ shown).splitOn '\t' =
        [countText file.additions, countText file.deletions, shown] := by
      rw [countColumns, List.append_assoc, List.append_assoc, List.cons_append,
        List.splitOn_append_cons_self_of_not_mem (not_mem_countText (by decide)),
        List.singleton_append,
        List.splitOn_append_cons_self_of_not_mem (not_mem_countText (by decide)),
        List.splitOn_eq_singleton bare]
    rw [readLines, split]
    simp only [readCount_countText fun n added => small n (.inl added),
      readCount_countText fun n deleted => small n (.inr deleted), readLines_of_no_tab rest]
    rfl
  have whole : ∀ c ∈ countColumns file, isLineBreak c = false := by
    intro c member
    simp only [countColumns, List.mem_append, List.mem_cons, List.not_mem_nil, or_false] at member
    rcases member with (count | rfl | count) | rfl
    · exact isLineBreak_of_not_isSpace (ink_of_mem_countText count)
    · decide
    · exact isLineBreak_of_not_isSpace (ink_of_mem_countText count)
    · decide
  have split := List.takeWhile_append_dropWhile (p := fun c => !isLineBreak c) (l := path)
  have first : ∀ c ∈ countColumns file ++ shownPath path, isLineBreak c = false := by
    intro c member
    rcases List.mem_append.mp member with count | before
    · exact whole c count
    · simpa using List.mem_takeWhile_imp before
  have bare : '\t' ∉ shownPath path :=
    fun member => tabs ((List.takeWhile_sublist _).subset member)
  cases rest : path.dropWhile (fun c => !isLineBreak c) with
  | nil =>
    rw [rest, List.append_nil] at split
    have whole : shownPath path = path := split
    rw [whole] at first bare ⊢
    rw [List.splitOnP_eq_singleton first]
    exact columns path [] bare (by simp)
  | cons mark after =>
    have here := List.head?_dropWhile_not (fun c => !isLineBreak c) path
    simp only [rest, List.head?_cons, Bool.not_eq_false'] at here
    rw [rest] at split
    have broken : countColumns file ++ path =
        (countColumns file ++ shownPath path) ++ mark :: after := by
      rw [List.append_assoc, shownPath, split]
    rw [broken, List.splitOnP_append_cons_of_forall_mem first mark here]
    refine columns _ _ bare fun line among member => ?_
    have later : '\t' ∈ mark :: after := List.mem_cons_of_mem _ (mem_of_mem_splitOnP among member)
    exact tabs (split ▸ List.mem_append_right _ later)

/-- Each line of the list shows its file. -/
theorem readLines_fileLines {files : List ChangedFile}
    (unquoted : ∀ file ∈ files, ∀ c ∈ file.path.toList, isUnquoted c = true)
    (small : ∀ file ∈ files, ∀ n, n ∈ file.additions ∨ n ∈ file.deletions → n < 2 ^ 64)
    (rest : List Char) :
    readLines ((files.flatMap (fun file => fileLine file ++ ['\n']) ++ rest).splitOnP isLineBreak) =
      (readLines (rest.splitOnP isLineBreak)).map (files.map shown ++ ·) := by
  induction files with
  | nil => simp
  | cons file files ih =>
    have tabs := not_mem_unquoted (unquoted file List.mem_cons_self) (by decide : '\t'.toNat < 0x20)
    have lines : (file :: files).flatMap (fun file => fileLine file ++ ['\n']) ++ rest =
        (countColumns file ++ file.path.toList) ++ '\n' ::
          (files.flatMap (fun file => fileLine file ++ ['\n']) ++ rest) := by
      simp [fileLine_eq]
    rw [lines, List.splitOnP_append_cons _ _ (by decide), readLines_append,
      readLines_fileLine tabs (small file List.mem_cons_self),
      ih (fun other member => unquoted other (List.mem_cons_of_mem _ member))
        (fun other member => small other (List.mem_cons_of_mem _ member))]
    cases readLines (rest.splitOnP isLineBreak) <;> rfl

theorem mem_countColumns {file : ChangedFile} {c : Char} (member : c ∈ countColumns file) :
    c = '\t' ∨ 0x20 ≤ c.toNat := by
  simp only [countColumns, List.mem_append, List.mem_cons, List.not_mem_nil, or_false] at member
  rcases member with (count | tab | count) | tab
  · exact .inr (Nat.le_trans (by decide) (range_of_mem_countText count).1)
  · exact .inl tab
  · exact .inr (Nat.le_trans (by decide) (range_of_mem_countText count).1)
  · exact .inl tab

/-- The only control characters in the list of files are its tabs and newlines. -/
theorem mem_numstatText {files : List ChangedFile}
    (unquoted : ∀ file ∈ files, ∀ c ∈ file.path.toList, isUnquoted c = true) {c : Char}
    (member : c ∈ numstatText files) : c = '\n' ∨ c = '\t' ∨ 0x20 ≤ c.toNat := by
  rw [numstatText] at member
  split_ifs at member
  · cases member
  · rcases List.mem_cons.mp member with newline | member
    · exact .inl newline
    · obtain ⟨file, among, member⟩ := List.mem_flatMap.mp member
      rw [fileLine_eq, List.mem_append, List.mem_append] at member
      rcases member with (count | path) | newline
      · exact .inr (mem_countColumns count)
      · exact .inr (.inr (ink_of_isUnquoted (unquoted file among c path)))
      · exact .inl (List.mem_singleton.mp newline)

theorem exists_ink_countText (count : Option Nat) : ∃ c ∈ countText count, isSpace c = false := by
  obtain ⟨c, rest, text⟩ := List.exists_cons_of_ne_nil (countText_ne_nil count)
  have member : c ∈ countText count := text ▸ List.mem_cons_self
  exact ⟨c, member, ink_of_mem_countText member⟩

/-- A line of the list begins with a character that is not cut. -/
theorem fileLine_cons (file : ChangedFile) :
    ∃ c rest, fileLine file = c :: rest ∧ isSpace c = false := by
  obtain ⟨c, rest, text⟩ := List.exists_cons_of_ne_nil (countText_ne_nil file.additions)
  refine ⟨c, rest ++ '\t' :: countText file.deletions ++ '\t' :: file.path.toList, ?_, ?_⟩
  · rw [fileLine, text]
    rfl
  · exact ink_of_mem_countText (text ▸ List.mem_cons_self)

/-- The list without the newlines around it, and without the white space at its end. -/
theorem stripText_numstatText (files : List ChangedFile) (last : ChangedFile) :
    stripText (numstatText (files ++ [last])) =
      files.flatMap (fun file => fileLine file ++ ['\n']) ++ stripEnd (fileLine last) := by
  obtain ⟨c, rest, line, ink⟩ := fileLine_cons last
  have lines : (files ++ [last]).flatMap (fun file => fileLine file ++ ['\n']) =
      (files.flatMap (fun file => fileLine file ++ ['\n']) ++ fileLine last) ++ ['\n'] := by
    simp
  have begun : ∃ c rest, (files.flatMap (fun file => fileLine file ++ ['\n']) ++ fileLine last) ++
      ['\n'] = c :: rest ∧ isSpace c = false := by
    cases files with
    | nil => exact ⟨c, rest ++ ['\n'], by simp [line], ink⟩
    | cons file files =>
      obtain ⟨c, rest, line, ink⟩ := fileLine_cons file
      exact ⟨c, _, by simp [line]; rfl, ink⟩
  obtain ⟨first, others, text, start⟩ := begun
  have some_ : (files ++ [last]).isEmpty = false := by simp
  rw [numstatText, some_, if_neg Bool.false_ne_true, lines, stripText,
    List.dropWhile_cons_of_pos (by decide), text, List.dropWhile_cons_of_neg (by simp [start]),
    ← text, stripEnd_append_blank (List.forall_mem_singleton.mpr rfl),
    stripEnd_append ⟨c, line ▸ List.mem_cons_self, ink⟩]

/-- A path that is not blank loses the white space at its end; with a blank one the tab
before it is cut, and the line names no file. -/
theorem readLines_stripEnd {file : ChangedFile}
    (unquoted : ∀ c ∈ file.path.toList, isUnquoted c = true)
    (small : ∀ n, n ∈ file.additions ∨ n ∈ file.deletions → n < 2 ^ 64) :
    readLines ((stripEnd (fileLine file)).splitOnP isLineBreak) =
      if file.path.toList.all isSpace then some []
      else some [{ file with path := String.ofList (shownPath (stripEnd file.path.toList)) }] := by
  rw [fileLine_eq]
  split_ifs with blank
  · rw [List.all_eq_true] at blank
    have columns : countColumns file =
        (countText file.additions ++ ['\t']) ++ countText file.deletions ++ ['\t'] := by
      simp [countColumns]
    have kept : stripEnd (countText file.deletions) = countText file.deletions :=
      stripEnd_eq_self.mpr fun c last =>
        ink_of_mem_countText (List.mem_of_getLast? last)
    have whole : ∀ c ∈ (countText file.additions ++ ['\t']) ++ countText file.deletions,
        isLineBreak c = false := by
      intro c member
      rcases List.mem_append.mp member with first | count
      · rcases List.mem_append.mp first with count | tab
        · exact isLineBreak_of_not_isSpace (ink_of_mem_countText count)
        · rw [List.mem_singleton.mp tab]
          decide
      · exact isLineBreak_of_not_isSpace (ink_of_mem_countText count)
    rw [stripEnd_append_blank blank, columns,
      stripEnd_append_blank (List.forall_mem_singleton.mpr rfl),
      stripEnd_append (exists_ink_countText _), kept, List.splitOnP_eq_singleton whole, readLines,
      List.append_assoc, List.singleton_append,
      List.splitOn_append_cons_self_of_not_mem (not_mem_countText (by decide)),
      List.splitOn_eq_singleton (not_mem_countText (by decide))]
    rfl
  · have ink : ∃ c ∈ file.path.toList, isSpace c = false := by simpa using blank
    have bare : '\t' ∉ stripEnd file.path.toList := fun member =>
      not_mem_unquoted unquoted (by decide) ((stripEnd_initial _).subset member)
    rw [stripEnd_append ink, readLines_fileLine bare small]

theorem shownPath_eq_self {path : List Char} :
    shownPath path = path ↔ ∀ c ∈ path, isLineBreak c = false := by
  rw [shownPath, List.takeWhile_eq_self_iff]
  simp

/-- What is shown of the end of a path is all of it only where nothing is cut. -/
theorem shownPath_stripEnd {path : List Char} : shownPath (stripEnd path) = path ↔
    (∀ c ∈ path, isLineBreak c = false) ∧ ∀ c ∈ path.getLast?, isSpace c = false := by
  rw [← shownPath_eq_self, ← stripEnd_eq_self]
  constructor
  · intro same
    have cut : shownPath (stripEnd path) <+: stripEnd path := List.takeWhile_prefix _
    rw [same] at cut
    have kept := (stripEnd_initial path).eq_of_length_le cut.length_le
    exact ⟨by rwa [kept] at same, kept⟩
  · rintro ⟨whole, kept⟩
    rw [kept, whole]

theorem shown_eq_self {file : ChangedFile} :
    shown file = file ↔ ∀ c ∈ file.path.toList, isLineBreak c = false := by
  rw [← shownPath_eq_self]
  constructor
  · intro same
    have path := congrArg (fun file => file.path.toList) same
    simpa [shown] using path
  · intro same
    rw [shown, same, String.ofList_toList]

/-- The list of files is read back exactly when no path holds a line break and the last does
not end with white space. -/
theorem readFiles_numstatText {files : List ChangedFile}
    (unquoted : ∀ file ∈ files, file.path ≠ "" ∧ ∀ c ∈ file.path.toList, isUnquoted c = true)
    (small : ∀ file ∈ files, ∀ n, n ∈ file.additions ∨ n ∈ file.deletions → n < 2 ^ 64) :
    readFiles (numstatText files) = some files ↔
      (∀ file ∈ files, ∀ c ∈ file.path.toList, isLineBreak c = false) ∧
        ∀ file ∈ files.getLast?, ∀ c ∈ file.path.toList.getLast?, isSpace c = false := by
  rcases List.eq_nil_or_concat files with rfl | ⟨others, last, rfl⟩
  · exact iff_of_true rfl (by simp)
  · rw [List.concat_eq_append] at unquoted small ⊢
    have plain : ∀ file ∈ others ++ [last], ∀ c ∈ file.path.toList, isUnquoted c = true :=
      fun file member => (unquoted file member).2
    have among : last ∈ others ++ [last] := List.mem_append_right _ List.mem_cons_self
    have translated : '\r' ∉ stripText (numstatText (others ++ [last])) := by
      intro member
      have printed := (List.dropWhile_sublist isSpace).subset ((stripEnd_initial _).subset member)
      rcases mem_numstatText plain printed with newline | tab | high
      · exact absurd newline (by decide)
      · exact absurd tab (by decide)
      · exact absurd high (by decide)
    rw [readFiles, readLines_splitLines translated, stripText_numstatText,
      readLines_fileLines (fun file member => plain file (List.mem_append_left _ member))
        (fun file member => small file (List.mem_append_left _ member)),
      readLines_stripEnd (plain last among) (small last among)]
    split_ifs with blank
    · -- the last file is lost
      rw [List.all_eq_true] at blank
      refine iff_of_false ?_ ?_
      · intro same
        have fewer := congrArg List.length (Option.some.inj same)
        simp at fewer
      · rintro ⟨-, ends⟩
        cases end_ : last.path.toList.getLast? with
        | none =>
          rw [List.getLast?_eq_none_iff] at end_
          exact (unquoted last among).1 (by simpa using end_)
        | some c =>
          have space := blank c (List.mem_of_getLast? end_)
          rw [ends last (by simp) c end_] at space
          cases space
    · rw [Option.map_some, Option.some_inj]
      constructor
      · intro same
        obtain ⟨first, ends⟩ := List.append_inj' same rfl
        have path := congrArg (fun file => file.path.toList) (List.singleton_inj.mp ends)
        obtain ⟨whole, kept⟩ := shownPath_stripEnd.mp (by simpa using path)
        refine ⟨fun file member => ?_, ?_⟩
        · rcases List.mem_append.mp member with other | end_
          · have each := List.map_inj_left.mp (first.trans (List.map_id _).symm)
            exact shown_eq_self.mp (each file other)
          · rw [List.mem_singleton.mp end_]
            exact whole
        · simpa using kept
      · rintro ⟨whole, kept⟩
        have first : others.map shown = others := by
          refine (List.map_congr_left fun file member => ?_).trans (List.map_id others)
          exact shown_eq_self.mpr (whole file (List.mem_append_left _ member))
        have ends : shownPath (stripEnd last.path.toList) = last.path.toList :=
          shownPath_stripEnd.mpr ⟨whole last among, kept last (by simp)⟩
        rw [first, ends, String.ofList_toList]

/-! ## The first line -/

/-- What ends the first line of a block. -/
def isMark (c : Char) : Bool := c == '\r' || c == recordMark

/-- The first line of the first block goes up to the first mark. -/
theorem firstLine_of_blocks {line : List Char} (oneLine : '\n' ∉ line) (rest : List Char) :
    ∃ block blocks, (universalNewlines (line ++ '\n' :: rest)).splitOn recordMark =
        block :: blocks ∧
      block.takeWhile (fun c => c != '\n') = line.takeWhile (fun c => !isMark c) := by
  induction line with
  | nil =>
    obtain ⟨block, blocks, split⟩ := List.exists_cons_of_ne_nil
      (List.splitOn_ne_nil recordMark (newlinesFrom false rest))
    refine ⟨'\n' :: block, blocks, ?_, by simp⟩
    rw [List.nil_append, universalNewlines, newlinesFrom, if_neg (by decide), Bool.false_and,
      if_neg Bool.false_ne_true, List.splitOn_cons_eq_if_modifyHead, if_neg (by decide), split,
      List.modifyHead_cons]
  | cons c line ih =>
    rw [List.mem_cons, not_or] at oneLine
    obtain ⟨block, blocks, split, first⟩ := ih oneLine.2
    by_cases return_ : c = '\r'
    · subst return_
      obtain ⟨later, others, after⟩ := List.exists_cons_of_ne_nil
        (List.splitOn_ne_nil recordMark (newlinesFrom true (line ++ '\n' :: rest)))
      refine ⟨'\n' :: later, others, ?_, by simp [isMark]⟩
      rw [List.cons_append, universalNewlines, newlinesFrom, if_pos rfl,
        List.splitOn_cons_eq_if_modifyHead, if_neg (by decide), after, List.modifyHead_cons]
    · have translated : universalNewlines (c :: line ++ '\n' :: rest) =
          c :: universalNewlines (line ++ '\n' :: rest) := by
        rw [List.cons_append, universalNewlines, newlinesFrom, if_neg return_, Bool.false_and,
          if_neg Bool.false_ne_true, universalNewlines]
      rw [translated, List.splitOn_cons_eq_if_modifyHead]
      by_cases record : c = recordMark
      · subst record
        exact ⟨[], _, if_pos (by decide), by simp [isMark]⟩
      · refine ⟨c :: block, blocks, ?_, ?_⟩
        · rw [if_neg (by simpa using record), split, List.modifyHead_cons]
        · rw [List.takeWhile_cons_of_pos (by simpa using Ne.symm oneLine.1), first,
            List.takeWhile_cons_of_pos (by simp [isMark, return_, record])]

/-- Four field marks divide the first line into these fields. -/
theorem splitAtMost_fields {line sha author authored committed subject : List Char} :
    splitAtMost fieldMark 4 line = [sha, author, authored, committed, subject] ↔
      fieldMark ∉ sha ∧ fieldMark ∉ author ∧ fieldMark ∉ authored ∧ fieldMark ∉ committed ∧
        line = sha ++ fieldMark :: author ++ fieldMark :: authored ++ fieldMark :: committed ++
          fieldMark :: subject := by
  have last : ∀ text, splitAtMost fieldMark 0 text = [subject] ↔ text = subject :=
    fun text => List.singleton_inj
  simp only [splitAtMost_succ_eq, last]
  constructor
  · rintro ⟨noSha, _, rfl, noAuthor, _, rfl, noAuthored, _, rfl, noCommitted, _, rfl, rfl⟩
    exact ⟨noSha, noAuthor, noAuthored, noCommitted, by simp⟩
  · rintro ⟨noSha, noAuthor, noAuthored, noCommitted, rfl⟩
    exact ⟨noSha, _, by simp, noAuthor, _, rfl, noAuthored, _, rfl, noCommitted, _, rfl, rfl⟩

/-- A block is read as a commit exactly when its first line has the fields of the commit, and
the lines after it show its files. -/
theorem readCommit_eq_some {block : List Char} {c : Commit} :
    readCommit block = some c ↔
      splitAtMost fieldMark 4 (block.takeWhile (fun ch => ch != '\n')) =
          [c.sha.toList, c.author.toList, c.authoredAt.toList, c.committedAt.toList,
            c.subject.toList] ∧
        readFiles (block.dropWhile (fun ch => ch != '\n')).tail = some c.files := by
  simp only [readCommit]
  constructor
  · intro read
    split at read
    · next sha author authored committed subject fields =>
      obtain ⟨files, listed, same⟩ := Option.bind_eq_some_iff.mp read
      obtain rfl := Option.some.inj same
      simp only [String.toList_ofList]
      exact ⟨fields, listed⟩
    · cases read
  · rintro ⟨fields, listed⟩
    rw [fields, listed]
    simp

/-! ## The blocks of a commit -/

def blocksOf (c : Commit) : List (List Char) :=
  (universalNewlines (commitText c)).splitOn recordMark

theorem readBlocks_append (first rest : List (List Char)) :
    readBlocks (first ++ rest) =
      (readBlocks first).bind (fun commits => (readBlocks rest).map (commits ++ ·)) := by
  induction first with
  | nil => simp [readBlocks]
  | cons block first ih =>
    rw [List.cons_append, readBlocks, readBlocks]
    split_ifs
    · exact ih
    · rw [ih]
      cases readCommit block <;> cases readBlocks first <;> cases readBlocks rest <;> rfl

/-- The blocks of the commits that follow are those of each of them. -/
theorem splitOn_printLog (text : List Char) (commits : List Commit) :
    (universalNewlines (text ++ printLog commits)).splitOn recordMark =
      (universalNewlines text).splitOn recordMark ++ commits.flatMap blocksOf := by
  induction commits generalizing text with
  | nil => simp [printLog]
  | cons c commits ih =>
    have printed : printLog (c :: commits) = recordMark :: (commitText c ++ printLog commits) := rfl
    have marked : universalNewlines (recordMark :: (commitText c ++ printLog commits)) =
        recordMark :: universalNewlines (commitText c ++ printLog commits) := by
      rw [universalNewlines, newlinesFrom, if_neg (by decide), Bool.false_and,
        if_neg Bool.false_ne_true, universalNewlines]
    rw [printed, universalNewlines_append_cons (by decide), marked,
      List.splitOn_append_cons_self, ih, List.flatMap_cons, blocksOf]

theorem readLog_printLog (commits : List Commit) :
    readLog (printLog commits) = readBlocks (commits.flatMap blocksOf) := by
  have split := splitOn_printLog [] commits
  rw [List.nil_append] at split
  rw [readLog, split]
  rfl

/-! ## The characters of the first line -/

theorem range_of_isHexDigit {c : Char} (hex : isHexDigit c = true) :
    0x20 < c.toNat ∧ c.toNat < 0x7f := by
  simp only [isHexDigit, Bool.or_eq_true, Bool.and_eq_true, decide_eq_true_eq] at hex
  rcases hex with ⟨low, high⟩ | ⟨low, high⟩
  · have low : 0x30 ≤ c.toNat := low
    have high : c.toNat ≤ 0x39 := high
    omega
  · have low : 0x61 ≤ c.toNat := low
    have high : c.toNat ≤ 0x66 := high
    omega

theorem low_of_isDateChar {c : Char} (date : isDateChar c = true) : 0x20 < c.toNat := by
  simp only [isDateChar, Bool.or_eq_true, Bool.and_eq_true, decide_eq_true_eq,
    List.contains_iff_mem, List.mem_cons, List.not_mem_nil, or_false] at date
  rcases date with ⟨low, -⟩ | rfl | rfl | rfl | rfl | rfl
  · have low : 0x30 ≤ c.toNat := low
    omega
  all_goals decide

theorem isMark_of_low {c : Char} (high : 0x20 < c.toNat) : isMark c = false := by
  by_contra mark
  simp only [isMark, Bool.or_eq_false_iff, beq_eq_false_iff_ne, not_and_or, not_not] at mark
  rcases mark with rfl | rfl
  · exact absurd high (by decide)
  · exact absurd high (by decide)

/-- A character of the first line stands in one of the texts, or is none of the marks. -/
theorem PrintableCommit.mem_headerLine (c : PrintableCommit) {ch : Char}
    (member : ch ∈ headerLine c.toCommit) :
    ch ∈ c.author.toList ∨ ch ∈ c.subject.toList ∨ ch = fieldMark ∨ 0x20 < ch.toNat := by
  simp only [headerLine, List.mem_append, List.mem_cons] at member
  rcases member with (((sha | mark | author) | mark | authored) | mark | committed) | mark | subject
  · exact .inr (.inr (.inr (range_of_isHexDigit (c.identified.2 ch sha)).1))
  · exact .inr (.inr (.inl mark))
  · exact .inl author
  · exact .inr (.inr (.inl mark))
  · exact .inr (.inr (.inr (low_of_isDateChar (c.dated ch (List.mem_append_left _ authored)))))
  · exact .inr (.inr (.inl mark))
  · exact .inr (.inr (.inr (low_of_isDateChar (c.dated ch (List.mem_append_right _ committed)))))
  · exact .inr (.inr (.inl mark))
  · exact .inr (.inl subject)

theorem PrintableCommit.headerLine_oneLine (c : PrintableCommit) :
    '\n' ∉ headerLine c.toCommit := by
  intro member
  rcases c.mem_headerLine member with author | subject | mark | high
  · exact c.oneLine.1 author
  · exact c.oneLine.2 subject
  · exact absurd mark (by decide)
  · exact absurd high (by decide)

theorem PrintableCommit.unmarked_iff (c : PrintableCommit) :
    (∀ ch ∈ headerLine c.toCommit, isMark ch = false) ↔
      (∀ ch ∈ c.author.toList, isMark ch = false) ∧ ∀ ch ∈ c.subject.toList, isMark ch = false := by
  constructor
  · intro unmarked
    exact ⟨fun ch member => unmarked ch (by simp [headerLine, member]),
      fun ch member => unmarked ch (by simp [headerLine, member])⟩
  · rintro ⟨author, subject⟩ ch member
    rcases c.mem_headerLine member with member | member | rfl | high
    · exact author ch member
    · exact subject ch member
    · decide
    · exact isMark_of_low high

theorem forall_isMark_iff {text : List Char} :
    (∀ ch ∈ text, isMark ch = false) ↔ recordMark ∉ text ∧ '\r' ∉ text := by
  constructor
  · intro unmarked
    exact ⟨fun member => absurd (unmarked _ member) (by decide),
      fun member => absurd (unmarked _ member) (by decide)⟩
  · rintro ⟨record, return_⟩ ch member
    simp only [isMark, Bool.or_eq_false_iff, beq_eq_false_iff_ne]
    exact ⟨fun same => return_ (same ▸ member), fun same => record (same ▸ member)⟩

/-! ## A commit by itself -/

/-- The first block of a commit begins with its identifier, so it is not blank. -/
theorem PrintableCommit.exists_block (c : PrintableCommit) :
    ∃ block blocks, blocksOf c.toCommit = block :: blocks ∧
      (stripText block).isEmpty = false ∧
      block.takeWhile (fun ch => ch != '\n') =
        (headerLine c.toCommit).takeWhile (fun ch => !isMark ch) := by
  obtain ⟨block, blocks, split, first⟩ :=
    firstLine_of_blocks c.headerLine_oneLine (numstatText c.files)
  refine ⟨block, blocks, split, ?_, first⟩
  obtain ⟨ch, rest, sha⟩ := List.exists_cons_of_ne_nil
    (mt String.toList_eq_nil_iff.mp c.identified.1)
  obtain ⟨low, high⟩ := range_of_isHexDigit (c.identified.2 ch (sha ▸ List.mem_cons_self))
  have member : ch ∈ block := by
    have kept : ch ∈ block.takeWhile (fun ch => ch != '\n') := by
      rw [first, headerLine, sha]
      simp [isMark_of_low low]
    exact (List.takeWhile_sublist _).subset kept
  rw [List.isEmpty_eq_false_iff, Ne, stripText_eq_nil]
  intro blank
  exact absurd (blank ch member) (by simp [isSpace_of_range low high])

/-- A text without marks is one block, as it was printed. -/
theorem PrintableCommit.blocksOf_eq (c : PrintableCommit)
    (unmarked : ∀ ch ∈ headerLine c.toCommit, isMark ch = false) :
    blocksOf c.toCommit = [commitText c.toCommit] := by
  have plain : ∀ ch ∈ commitText c.toCommit, isMark ch = false := by
    intro ch member
    rcases List.mem_append.mp member with header | rest
    · exact unmarked ch header
    · rcases List.mem_cons.mp rest with rfl | listed
      · decide
      · rcases mem_numstatText (fun file among => (c.unquoted file among).2) listed with
          rfl | rfl | high
        · decide
        · decide
        · by_contra mark
          simp only [isMark, Bool.or_eq_false_iff, beq_eq_false_iff_ne, not_and_or, not_not] at mark
          rcases mark with rfl | rfl
          · exact absurd high (by decide)
          · exact absurd high (by decide)
  obtain ⟨record, return_⟩ := forall_isMark_iff.mp plain
  rw [blocksOf, universalNewlines_of_not_mem return_, List.splitOn_eq_singleton record]

theorem PrintableCommit.readCommit_commitText (c : PrintableCommit) :
    readCommit (commitText c.toCommit) = some c.toCommit ↔
      fieldMark ∉ c.author.toList ∧ readFiles (numstatText c.files) = some c.files := by
  have oneLine : ∀ ch ∈ headerLine c.toCommit, (ch != '\n') = true := by
    intro ch member
    rw [bne_iff_ne]
    rintro rfl
    exact c.headerLine_oneLine member
  have absent : ∀ {text : List Char}, (∀ ch ∈ text, 0x20 < ch.toNat) → fieldMark ∉ text :=
    fun high member => absurd (high _ member) (by decide)
  have sha := absent fun ch member => (range_of_isHexDigit (c.identified.2 ch member)).1
  have authored := absent fun ch member =>
    low_of_isDateChar (c.dated ch (List.mem_append_left _ member))
  have committed := absent fun ch member =>
    low_of_isDateChar (c.dated ch (List.mem_append_right _ member))
  rw [readCommit_eq_some, commitText, List.takeWhile_append_of_pos oneLine,
    List.dropWhile_append_of_pos oneLine, List.takeWhile_cons_of_neg (by decide),
    List.dropWhile_cons_of_neg (by decide), List.append_nil, List.tail_cons, splitAtMost_fields]
  constructor
  · rintro ⟨⟨-, author, -⟩, listed⟩
    exact ⟨author, listed⟩
  · rintro ⟨author, listed⟩
    exact ⟨⟨sha, author, authored, committed, rfl⟩, listed⟩

/-- What a commit is printed as is read as that commit exactly when it is legible. -/
theorem PrintableCommit.readBlocks_iff (c : PrintableCommit) :
    readBlocks (blocksOf c.toCommit) = some [c.toCommit] ↔ Legible c.toCommit := by
  have files := readFiles_numstatText c.unquoted c.counted
  constructor
  · intro read
    obtain ⟨block, blocks, split, ink, first⟩ := c.exists_block
    rw [split, readBlocks, if_neg (by simp [ink])] at read
    obtain ⟨commit, here, read⟩ := Option.bind_eq_some_iff.mp read
    obtain ⟨others, later, same⟩ := Option.bind_eq_some_iff.mp read
    obtain ⟨rfl, -⟩ := List.cons.inj (Option.some.inj same)
    -- the first line has all the fields, so nothing ends it early
    have fields := (readCommit_eq_some.mp here).1
    rw [first, splitAtMost_fields] at fields
    have unmarked : ∀ ch ∈ headerLine c.toCommit, isMark ch = false := by
      have whole := List.takeWhile_eq_self_iff.mp (fields.2.2.2.2)
      simpa using whole
    rw [c.blocksOf_eq unmarked] at split
    obtain ⟨rfl, -⟩ := List.cons.inj split
    obtain ⟨author, listed⟩ := c.readCommit_commitText.mp here
    obtain ⟨authorMarks, subjectMarks⟩ := c.unmarked_iff.mp unmarked
    obtain ⟨record, return_⟩ := forall_isMark_iff.mp authorMarks
    obtain ⟨paths, last⟩ := files.mp listed
    exact ⟨⟨record, author, return_⟩, forall_isMark_iff.mp subjectMarks, paths, last⟩
  · rintro ⟨⟨record, author, return_⟩, subject, paths, last⟩
    have unmarked := c.unmarked_iff.mpr
      ⟨forall_isMark_iff.mpr ⟨record, return_⟩, forall_isMark_iff.mpr subject⟩
    have read := c.readCommit_commitText.mpr ⟨author, files.mpr ⟨paths, last⟩⟩
    obtain ⟨block, blocks, split, ink, -⟩ := c.exists_block
    rw [c.blocksOf_eq unmarked] at split ⊢
    obtain ⟨rfl, -⟩ := List.cons.inj split
    rw [readBlocks, if_neg (by simp [ink]), read]
    rfl

/-- A commit is read as one commit at least. -/
theorem PrintableCommit.ne_nil_of_readBlocks (c : PrintableCommit) {commits : List Commit}
    (read : readBlocks (blocksOf c.toCommit) = some commits) : commits ≠ [] := by
  obtain ⟨block, blocks, split, ink, -⟩ := c.exists_block
  rw [split, readBlocks, if_neg (by simp [ink])] at read
  obtain ⟨commit, -, read⟩ := Option.bind_eq_some_iff.mp read
  obtain ⟨others, -, same⟩ := Option.bind_eq_some_iff.mp read
  obtain rfl := Option.some.inj same
  exact List.cons_ne_nil _ _

/-! ## The whole log -/

section
variable {commits : List PrintableCommit}

theorem length_le_of_readBlocks {read : List Commit}
    (same : readBlocks ((commits.map (·.toCommit)).flatMap blocksOf) = some read) :
    commits.length ≤ read.length := by
  induction commits generalizing read with
  | nil => exact Nat.zero_le _
  | cons c commits ih =>
    rw [List.map_cons, List.flatMap_cons, readBlocks_append] at same
    obtain ⟨first, here, same⟩ := Option.bind_eq_some_iff.mp same
    obtain ⟨rest, later, rfl⟩ := Option.map_eq_some_iff.mp same
    have one := List.length_pos_iff.mpr (c.ne_nil_of_readBlocks here)
    have others := ih later
    rw [List.length_cons, List.length_append]
    omega

/-- The log is read as what was printed exactly when each commit is. -/
theorem readBlocks_flatMap_iff :
    readBlocks ((commits.map (·.toCommit)).flatMap blocksOf) =
        some (commits.map (·.toCommit)) ↔
      ∀ c ∈ commits, readBlocks (blocksOf c.toCommit) = some [c.toCommit] := by
  induction commits with
  | nil => simp [readBlocks]
  | cons c commits ih =>
    rw [List.forall_mem_cons, ← ih, List.map_cons, List.flatMap_cons, readBlocks_append]
    constructor
    · intro same
      obtain ⟨first, here, same⟩ := Option.bind_eq_some_iff.mp same
      obtain ⟨rest, later, same⟩ := Option.map_eq_some_iff.mp same
      -- each commit takes up one place at least, so this one takes up one
      have one := List.length_pos_iff.mpr (c.ne_nil_of_readBlocks here)
      have others := length_le_of_readBlocks later
      have total := congrArg List.length same
      rw [List.length_append, List.length_cons, List.length_map] at total
      obtain ⟨rfl, rfl⟩ := List.append_inj (same.trans (List.singleton_append).symm)
        (by rw [List.length_singleton]; omega)
      exact ⟨here, later⟩
    · rintro ⟨here, later⟩
      rw [here, later]
      rfl

end

/-- The log of any commits is read back exactly when each of them is legible. -/
theorem readsBack_iff (commits : List PrintableCommit) :
    ReadsBack (commits.map (·.toCommit)) ↔ ∀ c ∈ commits, Legible c.toCommit := by
  have read : readLog (printLog (commits.map (·.toCommit))) =
      some (commits.map (·.toCommit)) ↔ ∀ c ∈ commits, Legible c.toCommit := by
    rw [readLog_printLog, readBlocks_flatMap_iff]
    exact forall₂_congr fun c _ => c.readBlocks_iff
  refine ⟨fun back => read.mp back.read, fun legible => ?_⟩
  have whole := read.mpr legible
  exact ⟨whole, by rw [logOf, whole, Option.map_some]⟩

/-- A commit whose author's name holds the mark before a record. -/
def markedAuthor : PrintableCommit where
  sha := "1111111aaaaaaaaaaaaaaaaaaaaaaaaaaaaaaaaa"
  author := String.ofList ['d', 'e', 'v', recordMark, 'o', 'p', 's']
  authoredAt := "2026-01-01T00:00:00+00:00"
  committedAt := "2026-01-01T00:00:00+00:00"
  subject := "fix the cache"
  files := []
  identified := ⟨by decide, List.all_eq_true.mp (by decide)⟩
  dated := List.all_eq_true.mp (by decide)
  oneLine := by decide
  unquoted := by simp
  counted := by simp

/-- The query for its log fails. -/
theorem not_readsBack : ¬ ∀ commits : List PrintableCommit,
    logOf (printLog (commits.map (·.toCommit))) =
      some (commits.map (fun c => c.toCommit.cleaned)) := by
  intro back
  have raises : logOf (printLog ([markedAuthor].map (·.toCommit))) = none := by decide +kernel
  rw [back] at raises
  cases raises

end IncidentTriage.Verified

import IncidentTriage.Evidence.Git

/-! # Looking up a commit

Asked for the changes of a commit, the adapter prints the log from it, one entry long and
limited to the paths of the service.  Where the commit does not touch these, the entry is an
older one that does.
-/

namespace IncidentTriage.Verified

open IncidentTriage.Python IncidentTriage.Evidence

/-! ## Histories -/

structure HistoryCommit where
  commit : Commit
  parents : List String
  deriving DecidableEq

abbrev HistoryCommit.sha (c : HistoryCommit) : String := c.commit.sha

/-- The commits of a repository, the newest first: every parent is older. -/
structure History where
  commits : List HistoryCommit
  distinct : (commits.map (·.sha)).Nodup
  older : commits.Pairwise (fun newer c => newer.sha ∉ c.parents)
  proper : ∀ c ∈ commits, c.sha ∉ c.parents

/-- Going from parent to parent leads from one commit to the other. -/
inductive LeadsBack (commits : List HistoryCommit) : String → String → Prop
  | here {sha : String} : LeadsBack commits sha sha
  | parent {c : HistoryCommit} {parent sha : String} (member : c ∈ commits)
      (named : parent ∈ c.parents) (on : LeadsBack commits parent sha) : LeadsBack commits c.sha sha

def isUnder (paths : List String) (file : ChangedFile) : Bool :=
  paths.any (fun path => file.path == path || (path ++ "/").toList.isPrefixOf file.path.toList)

/-- The commit changes a file of these paths. -/
def touches (paths : List String) (c : HistoryCommit) : Bool := c.commit.files.any (isUnder paths)

/-- The commit with its changes to these paths alone. -/
def restricted (paths : List String) (c : HistoryCommit) : Commit :=
  { c.commit with files := c.commit.files.filter (isUnder paths) }

/-- The commits that the given ones lead to, the newest first. -/
def reachableFrom : List String → List HistoryCommit → List HistoryCommit
  | _, [] => []
  | pending, c :: commits =>
    if c.sha ∈ pending then c :: reachableFrom (c.parents ++ pending) commits
    else reachableFrom pending commits

/-- The newest commit reachable from this one that touches the paths. -/
def History.newestTouching (h : History) (sha : String) (paths : List String) :
    Option HistoryCommit :=
  (reachableFrom [sha] h.commits).find? (touches paths)

/-- The only commit whose identifier begins so. -/
def History.resolve (h : History) (sha : String) : Option HistoryCommit :=
  match h.commits.filter (fun c => sha.toList.isPrefixOf c.sha.toList) with
  | [c] => some c
  | _ => none

/-- `_log` over a history: from a commit it prints one entry, and reads it back. -/
def History.log (h : History) (read : Commit → Commit)
    (between : Time → Time → Nat → List String → Except GitError (List Commit)) :
    LogRange → List String → Except GitError (List Commit)
  | .fromCommit sha, paths =>
    match h.resolve sha with
    | none => .error (.invalidQuery "unknown commit")
    | some c =>
      .ok ((h.newestTouching c.sha paths).toList.map (fun c => read (restricted paths c)))
  | .between since until_ limit, paths => between since until_ limit paths

/-! ## The property -/

/-- The text names this commit. -/
structure Names (h : History) (sha : String) (c : HistoryCommit) : Prop where
  shaped : matchesSha sha = true
  resolved : h.resolve sha = some c

/-- The answer has the commit's own changes to the paths, or says that it has none. -/
def AnswersAbout (read : Commit → Commit) (service : String) (paths : List String) (sha : String)
    (c : HistoryCommit) (answer : Except GitError CodeChanges) : Prop :=
  ∃ changes, answer = .ok changes ∧
    (touches paths c = true → changes.commits = [changesOf (read (restricted paths c))]) ∧
    (touches paths c = false →
      changes.commits = [] ∧ changes.summary = notTouchedSummary sha service)

/-- The service has paths; and the commit touches them, or nothing does that it leads to. -/
def TouchedOrUntouched (h : History) (paths : List String) (c : HistoryCommit) : Prop :=
  paths ≠ [] ∧ (touches paths c = true ∨
    ∀ older ∈ h.commits, LeadsBack h.commits c.sha older.sha → touches paths older = false)

/-! ## What is reachable -/

theorem LeadsBack.mono {commits more : List HistoryCommit} {a b : String} (leads : LeadsBack commits a b)
    (among : ∀ c ∈ commits, c ∈ more) : LeadsBack more a b := by
  induction leads with
  | here => exact .here
  | parent member named _ ih => exact .parent (among _ member) named ih

/-- A way that does not begin at the newest commit does not use it. -/
theorem LeadsBack.avoid {newest : HistoryCommit} {commits : List HistoryCommit} {a b : String}
    (older : ∀ c ∈ commits, newest.sha ∉ c.parents) (leads : LeadsBack (newest :: commits) a b)
    (elsewhere : a ≠ newest.sha) : LeadsBack commits a b := by
  induction leads with
  | here => exact .here
  | @parent c parent b member named _ ih =>
    rcases List.mem_cons.mp member with rfl | member
    · exact absurd rfl elsewhere
    · refine .parent member named (ih ?_)
      rintro rfl
      exact older c member named

/-- Nothing leads to the newest commit but itself. -/
theorem LeadsBack.to_newest {newest : HistoryCommit} {commits : List HistoryCommit} {a : String}
    (older : ∀ c ∈ newest :: commits, newest.sha ∉ c.parents)
    (leads : LeadsBack (newest :: commits) a newest.sha) : a = newest.sha := by
  generalize target : newest.sha = b at leads
  induction leads with
  | here => rfl
  | @parent c parent b member named _ ih =>
    subst target
    have last := ih rfl
    subst last
    exact absurd named (older c member)

theorem mem_reachableFrom {pending : List String} {commits : List HistoryCommit}
    (older : commits.Pairwise (fun newer c => newer.sha ∉ c.parents))
    (proper : ∀ c ∈ commits, c.sha ∉ c.parents) {x : HistoryCommit} :
    x ∈ reachableFrom pending commits ↔
      x ∈ commits ∧ ∃ p ∈ pending, LeadsBack commits p x.sha := by
  induction commits generalizing pending with
  | nil => simp [reachableFrom]
  | cons c commits ih =>
    obtain ⟨olderThan, olderRest⟩ := List.pairwise_cons.mp older
    have properRest : ∀ c ∈ commits, c.sha ∉ c.parents :=
      fun other member => proper other (List.mem_cons_of_mem _ member)
    have noWay : ∀ other ∈ c :: commits, c.sha ∉ other.parents := by
      intro other member
      rcases List.mem_cons.mp member with rfl | member
      · exact proper other List.mem_cons_self
      · exact olderThan other member
    have longer : ∀ {a b}, LeadsBack commits a b → LeadsBack (c :: commits) a b :=
      fun leads => leads.mono fun _ member => List.mem_cons_of_mem _ member
    simp only [reachableFrom]
    split_ifs with waiting
    · rw [List.mem_cons, ih olderRest properRest, List.mem_cons]
      constructor
      · rintro (rfl | ⟨member, p, named, leads⟩)
        · exact ⟨.inl rfl, x.sha, waiting, .here⟩
        · refine ⟨.inr member, ?_⟩
          rcases List.mem_append.mp named with parent | pending
          · exact ⟨c.sha, waiting, .parent List.mem_cons_self parent (longer leads)⟩
          · exact ⟨p, pending, longer leads⟩
      · rintro ⟨rfl | member, p, named, leads⟩
        · exact .inl rfl
        · refine .inr ⟨member, ?_⟩
          by_cases first : p = c.sha
          · cases leads with
            | here => exact ⟨_, List.mem_append_right _ named, .here⟩
            | @parent other parent _ at_ via on =>
              rcases List.mem_cons.mp at_ with rfl | at_
              · have elsewhere : parent ≠ other.sha := by
                  rintro rfl
                  exact proper other List.mem_cons_self via
                exact ⟨parent, List.mem_append_left _ via, on.avoid olderThan elsewhere⟩
              · have elsewhere : parent ≠ c.sha := by
                  rintro rfl
                  exact olderThan other at_ via
                exact ⟨_, List.mem_append_right _ named,
                  .parent at_ via (on.avoid olderThan elsewhere)⟩
          · exact ⟨p, List.mem_append_right _ named, leads.avoid olderThan first⟩
    · rw [ih olderRest properRest, List.mem_cons]
      constructor
      · rintro ⟨member, p, named, leads⟩
        exact ⟨.inr member, p, named, longer leads⟩
      · rintro ⟨rfl | member, p, named, leads⟩
        · exact absurd (leads.to_newest noWay ▸ named) waiting
        · refine ⟨member, p, named, leads.avoid olderThan ?_⟩
          rintro rfl
          exact waiting named

/-- The log from a commit begins with it. -/
theorem reachableFrom_self {commits : List HistoryCommit} {c : HistoryCommit}
    (distinct : (commits.map (·.sha)).Nodup) (member : c ∈ commits) :
    ∃ rest, reachableFrom [c.sha] commits = c :: rest := by
  induction commits with
  | nil => cases member
  | cons newest commits ih =>
    obtain ⟨fresh, distinct⟩ := List.nodup_cons.mp distinct
    rcases List.mem_cons.mp member with rfl | member
    · exact ⟨_, by rw [reachableFrom, if_pos (List.mem_singleton.mpr rfl)]⟩
    · have other : newest.sha ∉ [c.sha] := by
        rw [List.mem_singleton]
        intro same
        exact fresh (List.mem_map.mpr ⟨c, member, same.symm⟩)
      rw [reachableFrom, if_neg other]
      exact ih distinct member

theorem History.resolve_mem {h : History} {sha : String} {c : HistoryCommit}
    (resolved : h.resolve sha = some c) : c ∈ h.commits := by
  unfold History.resolve at resolved
  split at resolved
  · next only found =>
    obtain rfl := Option.some.inj resolved
    exact List.mem_of_mem_filter (found ▸ List.mem_singleton.mpr rfl)
  · cases resolved

theorem History.newestTouching_self {h : History} {c : HistoryCommit} {paths : List String}
    (member : c ∈ h.commits) (touched : touches paths c = true) :
    h.newestTouching c.sha paths = some c := by
  obtain ⟨rest, log⟩ := reachableFrom_self h.distinct member
  rw [History.newestTouching, log, List.find?_cons, touched]

theorem History.newestTouching_eq_none {h : History} {sha : String} {paths : List String} :
    h.newestTouching sha paths = none ↔
      ∀ older ∈ h.commits, LeadsBack h.commits sha older.sha → touches paths older = false := by
  rw [History.newestTouching, List.find?_eq_none]
  simp only [mem_reachableFrom h.older h.proper, List.mem_singleton, exists_eq_left,
    Bool.not_eq_true, and_imp]

/-! ## The lookup -/

theorem codeChanges_of_commit (h : History) (read : Commit → Commit)
    (between : Time → Time → Nat → List String → Except GitError (List Commit)) {sha : String}
    {c : HistoryCommit} (names : Names h sha c) (service : String) {paths : List String}
    (some_ : paths ≠ []) (start end_ : Time) (limit : Nat) :
    codeChanges (h.log read between) service paths start end_ (some sha) limit =
      .ok (observeChanges service paths start end_ (some sha) limit
        ((h.newestTouching c.sha paths).toList.map (fun c => read (restricted paths c)))) := by
  have range : rangeOf start end_ (some sha) limit = .ok (.fromCommit sha) := by
    rw [rangeOf, if_pos names.shaped]
  have logged : logPaths (h.log read between) (.fromCommit sha) paths =
      .ok ((h.newestTouching c.sha paths).toList.map (fun c => read (restricted paths c))) := by
    rw [logPaths, if_neg (by simpa using some_), History.log, names.resolved]
  rw [codeChanges, range]
  exact congrArg (fun logged => logged >>= fun logged =>
    pure (observeChanges service paths start end_ (some sha) limit logged)) logged

/-- A lookup answers about the commit it was asked for exactly when that commit touches the
paths of the service, or nothing before it does. -/
theorem answersAbout_iff (h : History) (read : Commit → Commit)
    (between : Time → Time → Nat → List String → Except GitError (List Commit)) {sha : String}
    {c : HistoryCommit} (names : Names h sha c) (service : String) (paths : List String)
    (start end_ : Time) (limit : Nat) :
    AnswersAbout read service paths sha c
        (codeChanges (h.log read between) service paths start end_ (some sha) limit) ↔
      TouchedOrUntouched h paths c := by
  by_cases empty : paths = []
  · -- the service has no paths: the lookup raises
    subst empty
    have raises : codeChanges (h.log read between) service [] start end_ (some sha) limit =
        .error (.scopeViolation "service has no repository paths in the service catalog") := by
      rw [codeChanges, rangeOf, if_pos names.shaped]
      rfl
    rw [raises]
    refine iff_of_false ?_ fun touched => touched.1 rfl
    rintro ⟨_, answered, -⟩
    cases answered
  · have member := History.resolve_mem names.resolved
    rw [codeChanges_of_commit h read between names service empty]
    cases touched : touches paths c with
    | true =>
      rw [History.newestTouching_self member touched]
      refine iff_of_true ⟨_, rfl, fun _ => rfl, fun untouched => ?_⟩ ⟨empty, .inl touched⟩
      exact absurd (touched.symm.trans untouched) (by decide)
    | false =>
      cases newest : h.newestTouching c.sha paths with
      | none =>
        refine iff_of_true ⟨_, rfl, fun impossible => ?_, fun _ => ⟨rfl, rfl⟩⟩
          ⟨empty, .inr (History.newestTouching_eq_none.mp newest)⟩
        exact absurd (touched.symm.trans impossible) (by decide)
      | some older =>
        refine iff_of_false ?_ ?_
        · rintro ⟨_, answered, -, untouched⟩
          obtain rfl := Except.ok.inj answered
          exact absurd (untouched touched).1 (List.cons_ne_nil _ _)
        · rintro ⟨-, impossible | untouched⟩
          · exact absurd (touched.symm.trans impossible) (by decide)
          · rw [History.newestTouching_eq_none.mpr untouched] at newest
            cases newest

def cacheFix : HistoryCommit where
  commit :=
    { sha := "1111111aaaaaaaaaaaaaaaaaaaaaaaaaaaaaaaaa", author := "dev", authoredAt := "2026-01-01",
      committedAt := "2026-01-01", subject := "fix the cache",
      files := [{ path := "services/cart/main.py", additions := some 2, deletions := some 1 }] }
  parents := []

def docsChange : HistoryCommit where
  commit :=
    { sha := "2222222aaaaaaaaaaaaaaaaaaaaaaaaaaaaaaaaa", author := "dev", authoredAt := "2026-01-02",
      committedAt := "2026-01-02", subject := "describe the cache",
      files := [{ path := "docs/cache.md", additions := some 9, deletions := some 0 }] }
  parents := [cacheFix.sha]

/-- A commit that leaves the service alone, on one that does not. -/
def cacheHistory : History where
  commits := [docsChange, cacheFix]
  distinct := by decide
  older := by decide
  proper := by decide

theorem names_docsChange : Names cacheHistory "2222222" docsChange :=
  ⟨by decide, by decide⟩

theorem answersAbout_iff_cache :
    AnswersAbout id "cart" ["services/cart"] "2222222" docsChange
        (codeChanges (cacheHistory.log id (fun _ _ _ _ => .ok [])) "cart" ["services/cart"] 0 1
          (some "2222222") 10) ↔
      TouchedOrUntouched cacheHistory ["services/cart"] docsChange :=
  answersAbout_iff cacheHistory id (fun _ _ _ _ => .ok []) names_docsChange "cart"
    ["services/cart"] 0 1 10

/-- Asked about the commit that leaves the service alone, the adapter answers with the one
before it. -/
theorem not_answersAbout :
    ¬ ∀ (h : History) (read : Commit → Commit)
      (between : Time → Time → Nat → List String → Except GitError (List Commit)) (sha : String)
      (c : HistoryCommit), Names h sha c → ∀ (service : String) (paths : List String)
      (start end_ : Time) (limit : Nat), AnswersAbout read service paths sha c
        (codeChanges (h.log read between) service paths start end_ (some sha) limit) := by
  intro answers
  have about := answers cacheHistory id (fun _ _ _ _ => .ok []) "2222222" docsChange
    names_docsChange "cart" ["services/cart"] 0 1 10
  have newest : cacheHistory.newestTouching docsChange.sha ["services/cart"] = some cacheFix := by
    decide
  rw [codeChanges_of_commit _ _ _ names_docsChange "cart" (List.cons_ne_nil _ _), newest] at about
  obtain ⟨_, answered, -, untouched⟩ := about
  obtain rfl := Except.ok.inj answered
  exact absurd (untouched (by decide)).1 (List.cons_ne_nil _ _)

end IncidentTriage.Verified

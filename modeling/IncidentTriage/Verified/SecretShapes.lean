import IncidentTriage.Evaluation.Scrubbing

/-! # The shapes of secrets

A mark may complete a known secret that shares characters with it, and credentials may disappear
from the middle of others.  Where neither can happen, a scrubbed string holds no known secret and
no shape of one.
-/

namespace IncidentTriage.Verified

open IncidentTriage.Python IncidentTriage.Redaction IncidentTriage.Evaluation

/-! ## Fixed texts and classes -/

/-- `\w` on ASCII. -/
structure WordClass (isWord : Char → Bool) : Prop where
  ascii : ∀ c : Char, c.toNat < 128 → isWord c = (c.isAlphanum || c == '_')

theorem behind_eq_some {fixed : String} {text rest : List Char} :
    behind fixed text = some rest ↔ text = fixed.toList ++ rest := by
  unfold behind
  split_ifs with front
  · obtain ⟨more, rfl⟩ := front
    simp [String.length]
  · simp only [false_iff]
    rintro rfl
    exact front (List.prefix_append _ rest)

theorem takeWhile_run {p : Char → Bool} {run : List Char} (rest : List Char)
    (all : ∀ c ∈ run, p c = true) (ends : ∀ c more, rest = c :: more → p c = false) :
    (run ++ rest).takeWhile p = run ∧ (run ++ rest).dropWhile p = rest := by
  rw [List.takeWhile_append_of_pos all, List.dropWhile_append_of_pos all]
  cases rest with
  | nil => simp
  | cons c more => simp [ends c more rfl]

theorem of_takeWhile {p : Char → Bool} {text : List Char} :
    (∀ c ∈ text.takeWhile p, p c = true) ∧
      ∀ c more, text.dropWhile p = c :: more → p c = false := by
  refine ⟨fun c member => List.mem_takeWhile_imp member, fun c more same => ?_⟩
  have absent := List.head?_dropWhile_not p text
  rw [same] at absent
  simpa using absent

/-! ## Matchers that leave the rest -/

/-- What is left out is a nonempty front. -/
def Leaves (after : List Char → Option (List Char)) : Prop :=
  ∀ {text rest : List Char}, after text = some rest → ∃ word, word ≠ [] ∧ text = word ++ rest

theorem matcherOf_word {after : List Char → Option (List Char)} (leaves : Leaves after)
    {before : Option Char} {word rest : List Char} :
    matcherOf after before (word ++ rest) = some word.length ↔
      after (word ++ rest) = some rest := by
  simp only [matcherOf, Option.map_eq_some_iff]
  constructor
  · rintro ⟨left, found, sizes⟩
    obtain ⟨word', _, split⟩ := leaves found
    have lengths := congrArg List.length split
    rw [List.length_append, List.length_append] at lengths
    rw [List.length_append] at sizes
    have same : word.length = word'.length := by omega
    rw [found, (List.append_inj split same).2]
  · intro found
    exact ⟨rest, found, by simp⟩

theorem matcherOf_ne_none {after : List Char → Option (List Char)} {before : Option Char}
    {text : List Char} : matcherOf after before text ≠ none ↔ ∃ rest, after text = some rest := by
  simp [matcherOf, Option.ne_none_iff_exists']

theorem sized_matcherOf {after : List Char → Option (List Char)} (leaves : Leaves after) :
    Sized (matcherOf after) where
  pos matched := by
    obtain ⟨rest, found, rfl⟩ := Option.map_eq_some_iff.mp matched
    obtain ⟨word, nonempty, rfl⟩ := leaves found
    have := List.length_pos_iff.mpr nonempty
    rw [List.length_append]
    omega
  le matched := by
    obtain ⟨rest, found, rfl⟩ := Option.map_eq_some_iff.mp matched
    omega

/-! ## Tokens -/

/-- What a head reads, and that it reads it before a character of the class. -/
structure HeadReads (head : List Char → Option (List Char)) (accepts : Char → Bool)
    (IsHead : List Char → Prop) : Prop where
  splits : ∀ {text rest : List Char}, head text = some rest → ∃ h, IsHead h ∧ text = h ++ rest
  reads : ∀ {h : List Char} {c : Char} {rest : List Char}, IsHead h → accepts c = true →
    head (h ++ c :: rest) = some (c :: rest)
  plain : ∀ {h : List Char}, IsHead h → '[' ∉ h ∧ ']' ∉ h ∧ ∃ c ∈ h, c ∉ redacted
  closed : accepts '[' = false ∧ accepts ']' = false

section
variable {head : List Char → Option (List Char)} {accepts : Char → Bool}
  {IsHead : List Char → Prop} {least : Nat}

theorem behindToken_splits (reads : HeadReads head accepts IsHead) {text rest : List Char}
    (found : behindToken head accepts least text = some rest) :
    ∃ h run, IsHead h ∧ (∀ c ∈ run, accepts c = true) ∧ least ≤ run.length ∧
      (∀ c more, rest = c :: more → accepts c = false) ∧ text = h ++ (run ++ rest) := by
  unfold behindToken at found
  split at found
  · rename_i left headed
    split_ifs at found with enough
    obtain rfl := Option.some.inj found
    obtain ⟨h, isHead, rfl⟩ := reads.splits headed
    exact ⟨h, left.takeWhile accepts, isHead, of_takeWhile.1, enough, of_takeWhile.2, by
      rw [List.takeWhile_append_dropWhile]⟩
  · cases found

theorem behindToken_reads (reads : HeadReads head accepts IsHead) (positive : 0 < least)
    {h run : List Char} (isHead : IsHead h) (all : ∀ c ∈ run, accepts c = true)
    (enough : least ≤ run.length) (more : List Char) :
    ∃ rest, behindToken head accepts least (h ++ (run ++ more)) = some rest := by
  cases run with
  | nil => exact absurd enough (by simp; omega)
  | cons c run =>
    have headed : head (h ++ (c :: run ++ more)) = some (c :: run ++ more) :=
      reads.reads isHead (all c List.mem_cons_self)
    refine ⟨(c :: run ++ more).dropWhile accepts, ?_⟩
    simp only [behindToken, headed]
    rw [if_pos]
    rw [List.takeWhile_append_of_pos all, List.length_append]
    omega

theorem leaves_behindToken (reads : HeadReads head accepts IsHead) :
    Leaves (behindToken head accepts least) := by
  intro text rest found
  obtain ⟨h, run, isHead, _, _, _, rfl⟩ := behindToken_splits reads found
  refine ⟨h ++ run, ?_, (List.append_assoc ..).symm⟩
  obtain ⟨_, _, c, member, _⟩ := reads.plain isHead
  exact fun none_ => absurd ((List.append_eq_nil_iff.mp none_).1 ▸ member) List.not_mem_nil

/-- A token is its head and a run of the class. -/
theorem token_word (reads : HeadReads head accepts IsHead) {before : Option Char}
    {word rest : List Char}
    (matched : matcherOf (behindToken head accepts least) before (word ++ rest) =
      some word.length) :
    ∃ h run, IsHead h ∧ (∀ c ∈ run, accepts c = true) ∧ least ≤ run.length ∧
      (∀ c more, rest = c :: more → accepts c = false) ∧ word = h ++ run := by
  obtain ⟨h, run, isHead, all, enough, ends, split⟩ :=
    behindToken_splits reads ((matcherOf_word (leaves_behindToken reads)).mp matched)
  rw [← List.append_assoc] at split
  exact ⟨h, run, isHead, all, enough, ends, List.append_cancel_right split⟩

theorem firm_token (reads : HeadReads head accepts IsHead) (positive : 0 < least) :
    Firm redacted (matcherOf (behindToken head accepts least)) where
  toSized := sized_matcherOf (leaves_behindToken reads)
  apart matched := by
    obtain ⟨h, run, isHead, all, _, _, rfl⟩ := token_word reads matched
    obtain ⟨opening, closing, c, member, other⟩ := reads.plain isHead
    have outside : ∀ b : Char, accepts b = false → b ∉ h → b ∉ h ++ run := by
      intro b refused absent member
      rcases List.mem_append.mp member with inHead | inRun
      · exact absent inHead
      · exact absurd (all b inRun) (by simp [refused])
    exact apart_of_symbols "REDACTED".toList rfl (outside '[' reads.closed.1 opening)
      (outside ']' reads.closed.2 closing) ⟨c, List.mem_append_left run member, other⟩
  lasting more matched := by
    obtain ⟨h, run, isHead, all, enough, _, rfl⟩ := token_word reads matched
    rw [List.append_assoc]
    exact matcherOf_ne_none.mpr (behindToken_reads reads positive isHead all enough more)

end

theorem headReads_behind {fixed : String} {accepts : Char → Bool}
    (plain : '[' ∉ fixed.toList ∧ ']' ∉ fixed.toList ∧ ∃ c ∈ fixed.toList, c ∉ redacted)
    (closed : accepts '[' = false ∧ accepts ']' = false) :
    HeadReads (behind fixed) accepts (fun h => h = fixed.toList) where
  splits found := ⟨_, rfl, behind_eq_some.mp found⟩
  reads isHead _ := behind_eq_some.mpr (by rw [isHead])
  plain isHead := isHead ▸ plain
  closed := closed

theorem headReads_anthropic :
    HeadReads (behind "sk-ant-") isKeyChar (fun h => h = "sk-ant-".toList) :=
  headReads_behind ⟨by decide, by decide, 's', by decide, by decide⟩ (by decide)

theorem headReads_vendors : HeadReads (behindAny vendors) isKeyChar
    (fun h => ∃ fixed ∈ vendors, h = fixed.toList) where
  splits found := by
    obtain ⟨fixed, member, found⟩ := List.exists_of_findSome?_eq_some found
    exact ⟨_, ⟨fixed, member, rfl⟩, behind_eq_some.mp found⟩
  reads := by
    rintro h c rest ⟨fixed, member, rfl⟩ _
    simp only [vendors, List.mem_cons, List.not_mem_nil, or_false] at member
    rcases member with rfl | rfl | rfl | rfl | rfl <;> rfl
  plain := by
    rintro h ⟨fixed, member, rfl⟩
    simp only [vendors, List.mem_cons, List.not_mem_nil, or_false] at member
    rcases member with rfl | rfl | rfl | rfl | rfl
    · exact ⟨by decide, by decide, 's', by decide, by decide⟩
    · exact ⟨by decide, by decide, 'p', by decide, by decide⟩
    · exact ⟨by decide, by decide, 'r', by decide, by decide⟩
    · exact ⟨by decide, by decide, 'g', by decide, by decide⟩
    · exact ⟨by decide, by decide, 'x', by decide, by decide⟩
  closed := by decide

theorem isSpace_of_isBearerChar {c : Char} (accepted : isBearerChar c = true) :
    isSpace c = false := by
  have code : c.toNat = 45 ∨ c.toNat = 46 ∨ (48 ≤ c.toNat ∧ c.toNat ≤ 57) ∨
      (65 ≤ c.toNat ∧ c.toNat ≤ 90) ∨ c.toNat = 95 ∨ (97 ≤ c.toNat ∧ c.toNat ≤ 122) ∨
      c.toNat = 0x130 ∨ c.toNat = 0x131 ∨ c.toNat = 0x17f ∨ c.toNat = 0x212a := by
    have alpha : c.isAlpha = (c.isUpper || c.isLower) := rfl
    have upper : c.isUpper = decide (65 ≤ c.val ∧ c.val ≤ 90) := rfl
    have lower : c.isLower = (decide (97 ≤ c.val) && decide (c.val ≤ 122)) := rfl
    simp only [isBearerChar, Char.isAlphanum, alpha, upper, lower,
      Char.isDigit, Bool.or_eq_true, Bool.and_eq_true, decide_eq_true_eq, beq_iff_eq,
      List.contains_iff_mem, List.mem_cons, List.not_mem_nil, or_false, ge_iff_le,
      UInt32.le_iff_toNat_le] at accepted
    have codes : c.val.toNat = c.toNat := rfl
    rcases accepted with ((((( upper | lower) | digit) | rfl) | rfl) | rfl) | other
    · simp at upper; omega
    · simp at lower; omega
    · simp at digit; omega
    · decide
    · decide
    · decide
    · omega
  simp only [isSpace, Bool.or_eq_false_iff, Bool.and_eq_false_iff, decide_eq_false_iff_not,
    List.contains_eq_mem, List.mem_cons, List.not_mem_nil, or_false]
  omega

theorem headReads_bearer : HeadReads behindBearer isBearerChar
    (fun h => ∃ letters spaces, letters.map Char.toLower = "bearer".toList ∧ spaces ≠ [] ∧
      (∀ c ∈ spaces, isSpace c = true) ∧ h = letters ++ spaces) where
  splits := by
    intro text rest found
    unfold behindBearer at found
    split_ifs at found with letters
    split at found
    · rename_i c more split
      split_ifs at found with space
      obtain rfl := Option.some.inj found
      refine ⟨_, ⟨text.take 6, c :: more.takeWhile isSpace, letters, List.cons_ne_nil _ _, ?_,
        rfl⟩, ?_⟩
      · intro d member
        rcases List.mem_cons.mp member with rfl | member
        · exact space
        · exact of_takeWhile.1 d member
      · rw [List.append_assoc, List.cons_append, List.takeWhile_append_dropWhile, ← split,
          List.take_append_drop]
    · cases found
  reads := by
    rintro h c rest ⟨letters, spaces, lower, nonempty, all, rfl⟩ accepted
    have six : letters.length = 6 := by
      have sizes := congrArg List.length lower
      rw [List.length_map] at sizes
      exact sizes
    obtain ⟨d, spaces, rfl⟩ := List.exists_cons_of_ne_nil nonempty
    have run := takeWhile_run (c :: rest)
      (fun d member => all d (List.mem_cons_of_mem _ member)) (fun d more same => by
        obtain ⟨rfl, _⟩ := List.cons.inj same
        exact isSpace_of_isBearerChar accepted)
    unfold behindBearer
    rw [List.append_assoc, List.take_left' six, List.drop_left' six, if_pos lower]
    simp only [List.cons_append]
    rw [if_pos (all d List.mem_cons_self), run.2]
  plain := by
    rintro h ⟨letters, spaces, lower, nonempty, all, rfl⟩
    have outside : ∀ b : Char, b.toLower ∉ "bearer".toList → isSpace b = false →
        b ∉ letters ++ spaces := by
      intro b other ink member
      rcases List.mem_append.mp member with letter | space
      · exact other (lower ▸ List.mem_map_of_mem letter)
      · exact absurd (all b space) (by simp [ink])
    obtain ⟨d, spaces, rfl⟩ := List.exists_cons_of_ne_nil nonempty
    refine ⟨outside '[' (by decide) (by decide), outside ']' (by decide) (by decide), d,
      by simp, ?_⟩
    intro member
    have ink : redacted.all (fun c => !isSpace c) = true := by decide
    have here := List.all_eq_true.mp ink d member
    exact absurd (all d List.mem_cons_self) (by simpa using here)
  closed := by decide

theorem firm_anthropicKey : Firm redacted anthropicKey :=
  firm_token headReads_anthropic (by decide)

theorem firm_bearerToken : Firm redacted bearerToken := firm_token headReads_bearer (by decide)

section
variable {isWord : Char → Bool}

theorem vendorKey_of_outside {before : Option Char} (outside : before.any isWord = false)
    (text : List Char) : vendorKey isWord before text =
      matcherOf (behindToken (behindAny vendors) isKeyChar 16) before text := by
  rw [vendorKey, outside]
  rfl

theorem outside_of_vendorKey {before : Option Char} {text : List Char} {n : Nat}
    (matched : vendorKey isWord before text = some n) : before.any isWord = false := by
  unfold vendorKey at matched
  split_ifs at matched with inside
  simpa using inside

theorem firm_vendorKey : Firm redacted (vendorKey isWord) := by
  have firm : Firm redacted (matcherOf (behindToken (behindAny vendors) isKeyChar 16)) :=
    firm_token headReads_vendors (by decide)
  refine { pos := ?_, le := ?_, apart := ?_, lasting := ?_ }
  · intro before text n matched
    rw [vendorKey_of_outside (outside_of_vendorKey matched)] at matched
    exact firm.pos matched
  · intro before text n matched
    rw [vendorKey_of_outside (outside_of_vendorKey matched)] at matched
    exact firm.le matched
  · intro before word rest matched
    rw [vendorKey_of_outside (outside_of_vendorKey matched)] at matched
    exact firm.apart matched
  · intro before word rest more matched
    have outside := outside_of_vendorKey matched
    rw [vendorKey_of_outside outside] at matched ⊢
    exact firm.lasting more matched

/-- A vendor's key begins with a character that no token stops before. -/
theorem vendorKey_begins {before : Option Char} {word rest : List Char}
    (matched : vendorKey isWord before (word ++ rest) = some word.length) :
    ∃ c more, word = c :: more ∧ isKeyChar c = true := by
  rw [vendorKey_of_outside (outside_of_vendorKey matched)] at matched
  obtain ⟨h, run, ⟨fixed, member, rfl⟩, _, _, _, rfl⟩ := token_word headReads_vendors matched
  have begins : ∀ fixed ∈ vendors, ∃ c more, fixed.toList = c :: more ∧ isKeyChar c = true := by
    simp only [vendors, List.mem_cons, List.not_mem_nil, or_false]
    rintro fixed (rfl | rfl | rfl | rfl | rfl) <;> exact ⟨_, _, rfl, by decide⟩
  obtain ⟨c, more, split, accepted⟩ := begins fixed member
  exact ⟨c, more ++ run, by rw [split, List.cons_append], accepted⟩

/-- No vendor's key stands directly behind a token: it would be part of it. -/
theorem vendorKey_follows_token {head : List Char → Option (List Char)}
    {accepts : Char → Bool} {IsHead : List Char → Prop} {least : Nat} {m : Matcher Char}
    (reads : HeadReads head accepts IsHead) (wider : ∀ c, isKeyChar c = true → accepts c = true)
    (token : ∀ {before : Option Char} {text : List Char} {n : Nat}, m before text = some n →
      matcherOf (behindToken head accepts least) before text = some n) :
    FoundBehind (vendorKey isWord) m := by
  intro before last found word rest more matched matched' _
  obtain ⟨c, word, rfl, accepted⟩ := vendorKey_begins matched
  obtain ⟨_, _, _, _, _, ends, _⟩ := token_word reads (token matched')
  exact absurd (wider c accepted) (by simp [ends c (word ++ more) rfl])

theorem vendorKey_follows_vendorKey : FoundBehind (vendorKey isWord) (vendorKey isWord) :=
  vendorKey_follows_token headReads_vendors (fun _ accepted => accepted) fun matched => by
    rwa [vendorKey_of_outside (outside_of_vendorKey matched)] at matched

theorem vendorKey_follows_bearerToken : FoundBehind (vendorKey isWord) bearerToken :=
  vendorKey_follows_token headReads_bearer
    (fun c accepted => by
      simp only [isKeyChar, Bool.or_eq_true] at accepted
      rcases accepted with (letter | score) | dash <;> simp [isBearerChar, *])
    fun matched => matched

/-! ## Connection URLs -/

/-- `postgres(?:ql)?(?:\+\w+)?://`. -/
def IsScheme (isWord : Char → Bool) (scheme : List Char) : Prop :=
  ∃ dialect driver, (dialect = [] ∨ dialect = "ql".toList) ∧
    (driver = [] ∨ ∃ name, name ≠ [] ∧ (∀ c ∈ name, isWord c = true) ∧ driver = '+' :: name) ∧
    scheme = "postgres".toList ++ (dialect ++ (driver ++ "://".toList))

theorem behindDriver_reads (words : WordClass isWord) {driver : List Char}
    (isDriver : driver = [] ∨
      ∃ name, name ≠ [] ∧ (∀ c ∈ name, isWord c = true) ∧ driver = '+' :: name)
    (more : List Char) : behindDriver isWord (driver ++ (':' :: more)) = ':' :: more := by
  rcases isDriver with rfl | ⟨name, nonempty, all, rfl⟩
  · rfl
  · have run := takeWhile_run (':' :: more) all fun c more same => by
      obtain ⟨rfl, _⟩ := List.cons.inj same
      rw [words.ascii ':' (by decide)]
      decide
    rw [List.cons_append, behindDriver, run.1, run.2, if_neg nonempty]

theorem behindScheme_reads (words : WordClass isWord) {scheme : List Char}
    (isScheme : IsScheme isWord scheme) (more : List Char) :
    behindScheme isWord (scheme ++ more) = some more := by
  obtain ⟨dialect, driver, isDialect, isDriver, rfl⟩ := isScheme
  have driven := behindDriver_reads words isDriver ('/' :: '/' :: more)
  have optional : behindOptional "ql" (dialect ++ (driver ++ (':' :: '/' :: '/' :: more))) =
      driver ++ (':' :: '/' :: '/' :: more) := by
    rcases isDialect with rfl | rfl
    · rcases isDriver with rfl | ⟨name, _, _, rfl⟩ <;> simp [behindOptional, behind]
    · have found : behind "ql" ("ql".toList ++ (driver ++ (':' :: '/' :: '/' :: more))) =
          some (driver ++ (':' :: '/' :: '/' :: more)) := behind_eq_some.mpr rfl
      rw [behindOptional, found]
      rfl
  have first := behind_eq_some.mpr (rfl :
    "postgres".toList ++ (dialect ++ (driver ++ (':' :: '/' :: '/' :: more))) = _)
  have whole : "postgres".toList ++ (dialect ++ (driver ++ "://".toList)) ++ more =
      "postgres".toList ++ (dialect ++ (driver ++ (':' :: '/' :: '/' :: more))) := by
    simp
  rw [whole, behindScheme, first]
  simp only [optional, driven]
  exact behind_eq_some.mpr rfl

theorem behindScheme_splits {text rest : List Char} (found : behindScheme isWord text = some rest) :
    ∃ scheme, IsScheme isWord scheme ∧ text = scheme ++ rest := by
  unfold behindScheme at found
  split at found
  · rename_i left first
    obtain rfl := behind_eq_some.mp first
    replace found := behind_eq_some.mp found
    have dialects : ∃ dialect, (dialect = [] ∨ dialect = "ql".toList) ∧
        left = dialect ++ behindOptional "ql" left := by
      unfold behindOptional
      cases optional : behind "ql" left with
      | none => exact ⟨[], .inl rfl, rfl⟩
      | some more => exact ⟨_, .inr rfl, behind_eq_some.mp optional⟩
    have drivers : ∀ text : List Char, ∃ driver, (driver = [] ∨
        ∃ name, name ≠ [] ∧ (∀ c ∈ name, isWord c = true) ∧ driver = '+' :: name) ∧
        text = driver ++ behindDriver isWord text := by
      intro text
      unfold behindDriver
      split
      · rename_i rest
        split_ifs with unnamed
        · exact ⟨[], .inl rfl, rfl⟩
        · exact ⟨_, .inr ⟨_, unnamed, of_takeWhile.1, rfl⟩, by
            rw [List.cons_append, List.takeWhile_append_dropWhile]⟩
      · exact ⟨[], .inl rfl, rfl⟩
    obtain ⟨dialect, isDialect, split⟩ := dialects
    obtain ⟨driver, isDriver, driven⟩ := drivers (behindOptional "ql" left)
    refine ⟨_, ⟨dialect, driver, isDialect, isDriver, rfl⟩, ?_⟩
    rw [found] at driven
    rw [driven] at split
    rw [split]
    simp
  · cases found

/-- `[^:@/\s]+:[^@/\s]+@`. -/
structure IsCredentials (text : List Char) : Prop where
  reads : ∀ more, behindCredentials (text ++ more) = some more
  ends : ∃ secret, text = secret ++ ['@'] ∧ ∀ c ∈ secret, isPasswordChar c = true

theorem behindCredentials_splits {text rest : List Char}
    (found : behindCredentials text = some rest) :
    ∃ credentials, IsCredentials credentials ∧ text = credentials ++ rest := by
  unfold behindCredentials at found
  split at found
  · rename_i u us left user after
    split at found
    · rename_i p ps more password last
      obtain rfl := Option.some.inj found
      have users : ∀ c ∈ u :: us, isUserChar c = true := user ▸ of_takeWhile.1
      have passwords : ∀ c ∈ p :: ps, isPasswordChar c = true := password ▸ of_takeWhile.1
      refine ⟨u :: us ++ ':' :: (p :: ps ++ ['@']), ⟨fun rest => ?_, ?_⟩, ?_⟩
      · have first := takeWhile_run (':' :: (p :: ps ++ '@' :: rest)) users fun c more same => by
          obtain ⟨rfl, _⟩ := List.cons.inj same
          decide
        have second := takeWhile_run ('@' :: rest) passwords fun c more same => by
          obtain ⟨rfl, _⟩ := List.cons.inj same
          decide
        have whole : u :: us ++ ':' :: (p :: ps ++ ['@']) ++ rest =
            u :: us ++ ':' :: (p :: ps ++ '@' :: rest) := by simp
        rw [whole, behindCredentials, first.1, first.2]
        simp only [second.1, second.2]
      · refine ⟨u :: us ++ ':' :: p :: ps, by simp, fun c member => ?_⟩
        have wider : ∀ c, isUserChar c = true → isPasswordChar c = true := by
          intro c accepted
          simp only [isUserChar, isPasswordChar, Bool.not_eq_true', Bool.or_eq_false_iff]
            at accepted ⊢
          exact ⟨⟨accepted.1.1.2, accepted.1.2⟩, accepted.2⟩
        rcases List.mem_append.mp member with inUser | inRest
        · exact wider c (users c inUser)
        · rcases List.mem_cons.mp inRest with rfl | inPassword
          · decide
          · exact passwords c inPassword
      · have split := List.takeWhile_append_dropWhile (p := isUserChar) (l := text)
        rw [user, after] at split
        have split' := List.takeWhile_append_dropWhile (p := isPasswordChar) (l := left)
        rw [password, last] at split'
        rw [← split, ← split']
        simp
    · cases found
  · cases found

theorem leaves_databaseUrl :
    Leaves fun text => (behindScheme isWord text).bind behindCredentials := by
  intro text rest found
  obtain ⟨left, schemed, credited⟩ := Option.bind_eq_some_iff.mp found
  obtain ⟨scheme, ⟨dialect, driver, _, _, rfl⟩, rfl⟩ := behindScheme_splits schemed
  obtain ⟨credentials, _, rfl⟩ := behindCredentials_splits credited
  exact ⟨_ ++ credentials, by simp, (List.append_assoc ..).symm⟩

theorem sized_databaseUrl : Sized (databaseUrl isWord) := sized_matcherOf leaves_databaseUrl

/-- A URL with credentials is a scheme and the credentials. -/
theorem databaseUrl_word {before : Option Char} {word rest : List Char}
    (matched : databaseUrl isWord before (word ++ rest) = some word.length) :
    ∃ scheme credentials, IsScheme isWord scheme ∧ IsCredentials credentials ∧
      word = scheme ++ credentials := by
  have found := (matcherOf_word leaves_databaseUrl).mp matched
  obtain ⟨left, schemed, credited⟩ := Option.bind_eq_some_iff.mp found
  obtain ⟨scheme, isScheme, split⟩ := behindScheme_splits schemed
  obtain ⟨credentials, areCredentials, rfl⟩ := behindCredentials_splits credited
  rw [← List.append_assoc] at split
  exact ⟨scheme, credentials, isScheme, areCredentials, List.append_cancel_right split⟩

theorem databaseUrl_reads (words : WordClass isWord) {scheme credentials : List Char}
    (isScheme : IsScheme isWord scheme) (areCredentials : IsCredentials credentials)
    (before : Option Char) (more : List Char) :
    databaseUrl isWord before (scheme ++ (credentials ++ more)) ≠ none := by
  refine matcherOf_ne_none.mpr ⟨more, ?_⟩
  rw [behindScheme_reads words isScheme]
  exact areCredentials.reads more

/-- Behind credentials a word boundary is left, and stays one. -/
theorem vendorKey_follows_databaseUrl (words : WordClass isWord) :
    FoundBehind (vendorKey isWord) (databaseUrl isWord) := by
  intro before last found word rest more matched matched' nonempty
  obtain ⟨scheme, credentials, _, areCredentials, rfl⟩ := databaseUrl_word matched'
  obtain ⟨secret, rfl, _⟩ := areCredentials.ends
  have ended : (scheme ++ (secret ++ ['@'])).getLast? = some '@' := by
    rw [← List.append_assoc, List.getLast?_concat]
  have outside : (some '@').any isWord = false := by
    rw [Option.any_some, words.ascii '@' (by decide)]
    decide
  rw [ended, vendorKey_of_outside outside]
  rw [vendorKey_of_outside (outside_of_vendorKey matched)] at matched
  exact (firm_token headReads_vendors (by decide)).lasting more matched

theorem apart_scheme (words : WordClass isWord) {scheme : List Char}
    (isScheme : IsScheme isWord scheme) : Apart redacted scheme ∧ scheme ≠ [] := by
  obtain ⟨dialect, driver, isDialect, isDriver, rfl⟩ := isScheme
  have outside : ∀ b : Char, b ∉ "postgres".toList → b ∉ "ql".toList → b ≠ '+' →
      isWord b = false → b ∉ "://".toList →
      b ∉ "postgres".toList ++ (dialect ++ (driver ++ "://".toList)) := by
    intro b first second plus other last member
    simp only [List.mem_append] at member
    rcases member with inFirst | inDialect | inDriver | inLast
    · exact first inFirst
    · rcases isDialect with rfl | rfl
      · cases inDialect
      · exact second inDialect
    · rcases isDriver with rfl | ⟨name, _, all, rfl⟩
      · cases inDriver
      · rcases List.mem_cons.mp inDriver with same | inName
        · exact plus same
        · exact absurd (all b inName) (by simp [other])
    · exact last inLast
  have unnamed : isWord '[' = false ∧ isWord ']' = false := by
    constructor
    · rw [words.ascii '[' (by decide)]
      decide
    · rw [words.ascii ']' (by decide)]
      decide
  refine ⟨apart_of_symbols "REDACTED".toList rfl
    (outside '[' (by decide) (by decide) (by decide) unnamed.1 (by decide))
    (outside ']' (by decide) (by decide) (by decide) unnamed.2 (by decide))
    ⟨':', by simp, by decide⟩, by simp⟩

/-! ## Nested URLs -/

/-- The texts that are replaced before connection URLs are looked for. -/
def Spot (isWord : Char → Bool) (secrets : List String) (word : List Char) : Prop :=
  word ∈ secrets.map String.toList ∨ ∃ shape ∈ [anthropicKey, vendorKey isWord, bearerToken],
    ∃ before rest, shape before (word ++ rest) = some word.length

/-- Behind a scheme, and before anything that would end its credentials, another one begins; what
is replaced on the way does not count. -/
def Nested (isWord : Char → Bool) (secrets : List String) (text : List Char) : Prop :=
  ∃ front outer filling inner rest,
    text = front ++ (outer ++ (filling ++ (inner ++ rest))) ∧ IsScheme isWord outer ∧
    IsScheme isWord inner ∧
    Filled (fun c => isPasswordChar c = true) (Spot isWord secrets) filling

/-- Two URLs are nested in the text if they are in what is left of it. -/
theorem Nested.of_blurs (words : WordClass isWord) {secrets : List String}
    (apart : ∀ word, Spot isWord secrets word → Apart redacted word ∧ word ≠ [])
    {text out : List Char} (blurs : Blurs redacted (Spot isWord secrets) text out)
    (nested : Nested isWord secrets out) : Nested isWord secrets text := by
  obtain ⟨front, outer, filling, inner, rest, rfl, isOuter, isInner, filled⟩ := nested
  obtain ⟨outerApart, outerText⟩ := apart_scheme words isOuter
  obtain ⟨innerApart, innerText⟩ := apart_scheme words isInner
  obtain ⟨front', left, rfl, _, behind⟩ := blurs.place outerApart outerText
  obtain ⟨filling', rest', rfl, within, _⟩ := behind.place innerApart innerText
  exact ⟨front', outer, filling', inner, rest', rfl, isOuter, isInner,
    filled.unblurred apart (by decide) within⟩

/-- Without nested URLs no credentials are left. -/
theorem not_finds_databaseUrl (words : WordClass isWord) {secrets : List String}
    {text : List Char} (flat : ¬ Nested isWord secrets text) :
    ¬ Finds (databaseUrl isWord) (redact (databaseUrl isWord) redacted text) := by
  rintro ⟨front, rest, split, found⟩
  obtain ⟨left, found⟩ := matcherOf_ne_none.mp found
  obtain ⟨left', schemed, credited⟩ := Option.bind_eq_some_iff.mp found
  obtain ⟨scheme, isScheme, rfl⟩ := behindScheme_splits schemed
  obtain ⟨credentials, areCredentials, rfl⟩ := behindCredentials_splits credited
  obtain ⟨apart, nonempty⟩ := apart_scheme words isScheme
  have scan := scan_redact (@sized_databaseUrl isWord) redacted text
  rw [split] at scan
  obtain ⟨front', rest', rfl, _, passed, behind, _⟩ := scan.place apart nonempty
  rcases behind.stretch with
    ⟨more, rfl⟩ | ⟨kept, more, found, rest', ctx, parted, some_, rfl, matched⟩
  · -- nothing was replaced inside the credentials, so the scanner would have found them
    exact databaseUrl_reads words isScheme areCredentials _ more passed
  · -- a URL was replaced inside them
    obtain ⟨inner, credentials', isInner, _, rfl⟩ := databaseUrl_word matched
    refine flat ⟨front', scheme, kept, inner, credentials' ++ rest', by simp, isScheme, isInner, ?_⟩
    obtain ⟨secret, rfl, all⟩ := areCredentials.ends
    obtain ⟨more', last, rfl⟩ := (List.eq_nil_or_concat more).resolve_left some_
    have inside : secret = kept ++ more' := by
      rw [List.concat_eq_append, ← List.append_assoc] at parted
      exact (List.append_inj' parted rfl).1
    exact filled_of_symbols fun c member => all c (inside ▸ List.mem_append_left more' member)

/-! ## Characters of the shapes -/

theorem mem_of_finds {m : Matcher Char} (sized : Sized m) {P : Char → Prop}
    (symbol : ∀ {before : Option Char} {word rest : List Char},
      m before (word ++ rest) = some word.length → ∃ c ∈ word, P c)
    {text : List Char} (finds : Finds m text) : ∃ c ∈ text, P c := by
  obtain ⟨front, rest, rfl, found⟩ := finds
  obtain ⟨n, matched⟩ := Option.ne_none_iff_exists'.mp found
  obtain ⟨word, rest, rfl, rfl⟩ : ∃ word more, rest = word ++ more ∧ word.length = n :=
    ⟨rest.take n, rest.drop n, (List.take_append_drop n rest).symm, by
      rw [List.length_take]
      exact min_eq_left (sized.le matched)⟩
  obtain ⟨c, member, holds⟩ := symbol matched
  exact ⟨c, by simp [member], holds⟩

/-- No shape is made of digits, signs and the letters of the schema version alone. -/
theorem symbol_of_finds {shape : Matcher Char} (member : shape ∈ secretShapes isWord)
    {text : List Char} (finds : Finds shape text) :
    ∃ c ∈ text, c = 'k' ∨ c = 'x' ∨ c = ':' ∨ isSpace c = true := by
  simp only [secretShapes, List.mem_cons, List.not_mem_nil, or_false] at member
  rcases member with rfl | rfl | rfl | rfl
  · refine mem_of_finds firm_anthropicKey.toSized ?_ finds
    intro before word rest matched
    obtain ⟨h, run, rfl, _, _, _, rfl⟩ :=
      token_word headReads_anthropic matched
    exact ⟨'k', by simp, .inl rfl⟩
  · refine mem_of_finds firm_vendorKey.toSized ?_ finds
    intro before word rest matched
    rw [vendorKey_of_outside (outside_of_vendorKey matched)] at matched
    obtain ⟨h, run, ⟨fixed, listed, rfl⟩, _, _, _, rfl⟩ := token_word headReads_vendors matched
    simp only [vendors, List.mem_cons, List.not_mem_nil, or_false] at listed
    rcases listed with rfl | rfl | rfl | rfl | rfl
    · exact ⟨'k', by simp, .inl rfl⟩
    · exact ⟨'k', by simp, .inl rfl⟩
    · exact ⟨'k', by simp, .inl rfl⟩
    · exact ⟨'k', by simp, .inl rfl⟩
    · exact ⟨'x', by simp, .inr (.inl rfl)⟩
  · refine mem_of_finds firm_bearerToken.toSized ?_ finds
    intro before word rest matched
    obtain ⟨h, run, ⟨letters, spaces, _, nonempty, all, rfl⟩, _, _, _, rfl⟩ :=
      token_word headReads_bearer matched
    obtain ⟨d, spaces, rfl⟩ := List.exists_cons_of_ne_nil nonempty
    exact ⟨d, by simp, .inr (.inr (.inr (all d List.mem_cons_self)))⟩
  · refine mem_of_finds sized_databaseUrl ?_ finds
    intro before word rest matched
    obtain ⟨scheme, credentials, ⟨dialect, driver, _, _, rfl⟩, _, rfl⟩ := databaseUrl_word matched
    exact ⟨':', by simp, .inr (.inr (.inl rfl))⟩

/-! ## One string -/

/-- A known secret or the shape of one stands in the text. -/
def Holds (isWord : Char → Bool) (secrets : List String) (text : String) : Prop :=
  ∃ m ∈ matchers isWord secrets, Finds m text.toList

/-- What is looked for before connection URLs. -/
def earlier (isWord : Char → Bool) (secrets : List String) : List (Matcher Char) :=
  secrets.map (fun secret => literal secret.toList) ++
    [anthropicKey, vendorKey isWord, bearerToken]

theorem matchers_eq (isWord : Char → Bool) (secrets : List String) :
    matchers isWord secrets = earlier isWord secrets ++ [databaseUrl isWord] := by
  simp [matchers, earlier, secretShapes]

/-- `[REDACTED]` completes no known secret. -/
def SecretsApart (secrets : List String) : Prop :=
  ∀ secret ∈ secrets, secret ≠ "" ∧ Apart redacted secret.toList

theorem scrubText_eq (isWord : Char → Bool) (secrets : List String) (value : String) :
    (scrubText isWord secrets value).1 =
      String.ofList (redactAll (matchers isWord secrets) redacted value.toList) := by
  have each : ∀ (ms : List (Matcher Char)) (text : List Char) (n : Nat),
      (ms.foldl (fun x m => (redact m redacted x.1, x.2 + count m x.1)) (text, n)).1 =
        redactAll ms redacted text := by
    intro ms
    induction ms with
    | nil => exact fun _ _ => rfl
    | cons m ms ih => exact fun text n => ih (redact m redacted text) (n + count m text)
  rw [← each _ _ 0]
  rfl

/-- A string that holds no secret is kept, and nothing is counted. -/
theorem scrubText_of_clean {secrets : List String} {value : String}
    (clean : ¬ Holds isWord secrets value) : scrubText isWord secrets value = (value, 0) := by
  have each : ∀ ms : List (Matcher Char), (∀ m ∈ ms, ¬ Finds m value.toList) →
      ms.foldl (fun x m => (redact m redacted x.1, x.2 + count m x.1)) (value.toList, 0) =
        (value.toList, 0) := by
    intro ms absent
    induction ms with
    | nil => rfl
    | cons m ms ih =>
      obtain ⟨kept, none_⟩ := redact_of_not_finds redacted (absent m List.mem_cons_self)
      rw [List.foldl_cons]
      simp only [kept, none_]
      exact ih fun m' member => absent m' (List.mem_cons_of_mem m member)
  have folded := each _ fun m member found => clean ⟨m, member, found⟩
  calc scrubText isWord secrets value
      = (String.ofList ((matchers isWord secrets).foldl
          (fun x m => (redact m redacted x.1, x.2 + count m x.1)) (value.toList, 0)).1,
        ((matchers isWord secrets).foldl
          (fun x m => (redact m redacted x.1, x.2 + count m x.1)) (value.toList, 0)).2) := rfl
    _ = (value, 0) := by simp [folded]

theorem firm_earlier {secrets : List String} (apart : SecretsApart secrets) :
    ∀ m ∈ earlier isWord secrets, Firm redacted m := by
  intro m member
  rcases List.mem_append.mp member with known | shape
  · obtain ⟨secret, listed, rfl⟩ := List.mem_map.mp known
    obtain ⟨nonempty, outside⟩ := apart secret listed
    exact firm_literal (by simpa using nonempty) outside
  · simp only [List.mem_cons, List.not_mem_nil, or_false] at shape
    rcases shape with rfl | rfl | rfl
    · exact firm_anthropicKey
    · exact firm_vendorKey
    · exact firm_bearerToken

theorem spot_of_earlier {secrets : List String} {m : Matcher Char}
    (member : m ∈ earlier isWord secrets) {before : Option Char} {word rest : List Char}
    (matched : m before (word ++ rest) = some word.length) : Spot isWord secrets word := by
  rcases List.mem_append.mp member with known | shape
  · obtain ⟨secret, listed, rfl⟩ := List.mem_map.mp known
    rw [literal_word matched]
    exact .inl (List.mem_map_of_mem listed)
  · exact .inr ⟨m, shape, before, rest, matched⟩

theorem apart_spot {secrets : List String} (apart : SecretsApart secrets) (word : List Char)
    (spot : Spot isWord secrets word) : Apart redacted word ∧ word ≠ [] := by
  rcases spot with known | ⟨m, member, before, rest, matched⟩
  · obtain ⟨secret, listed, rfl⟩ := List.mem_map.mp known
    obtain ⟨nonempty, outside⟩ := apart secret listed
    exact ⟨outside, by simpa using nonempty⟩
  · have firm := @firm_earlier isWord secrets apart m (List.mem_append_right _ member)
    exact ⟨firm.apart matched, List.length_pos_iff.mp (firm.pos matched)⟩

/-- A matcher that does not look back follows every other; a vendor's key follows what is looked
for after it. -/
theorem earlier_follow {secrets : List String} (apart : SecretsApart secrets) :
    (∀ m ∈ earlier isWord secrets, FoundBehind m m) ∧
      (earlier isWord secrets).Pairwise fun m m' => FoundBehind m m' := by
  have blind : ∀ secret ∈ secrets, ∀ m, FoundBehind (literal secret.toList) m := by
    intro secret listed m
    obtain ⟨nonempty, outside⟩ := apart secret listed
    exact (firm_literal (by simpa using nonempty) outside).follows (fun _ _ _ => rfl) m
  have anthropic : ∀ m, FoundBehind anthropicKey m :=
    fun m => firm_anthropicKey.follows (fun _ _ _ => rfl) m
  have bearer : ∀ m, FoundBehind bearerToken m :=
    fun m => firm_bearerToken.follows (fun _ _ _ => rfl) m
  constructor
  · intro m member
    rcases List.mem_append.mp member with known | shape
    · obtain ⟨secret, listed, rfl⟩ := List.mem_map.mp known
      exact blind secret listed _
    · simp only [List.mem_cons, List.not_mem_nil, or_false] at shape
      rcases shape with rfl | rfl | rfl
      · exact anthropic _
      · exact vendorKey_follows_vendorKey
      · exact bearer _
  · rw [earlier, List.pairwise_append]
    refine ⟨?_, ?_, ?_⟩
    · rw [List.pairwise_map]
      exact List.pairwise_of_forall_mem_list fun secret listed _ _ => blind secret listed _
    · simp only [List.pairwise_cons, List.mem_cons, List.not_mem_nil, or_false]
      refine ⟨fun m _ => anthropic m, ?_, by simp⟩
      rintro m rfl
      exact vendorKey_follows_bearerToken
    · intro m known m' _
      obtain ⟨secret, listed, rfl⟩ := List.mem_map.mp known
      exact blind secret listed _

theorem databaseUrl_followed (words : WordClass isWord) {secrets : List String}
    (apart : SecretsApart secrets) :
    ∀ m ∈ earlier isWord secrets, FoundBehind m (databaseUrl isWord) := by
  intro m member
  have firm := firm_earlier apart m member
  rcases List.mem_append.mp member with known | shape
  · obtain ⟨secret, _, rfl⟩ := List.mem_map.mp known
    exact firm.follows (fun _ _ _ => rfl) _
  · simp only [List.mem_cons, List.not_mem_nil, or_false] at shape
    rcases shape with rfl | rfl | rfl
    · exact firm.follows (fun _ _ _ => rfl) _
    · exact vendorKey_follows_databaseUrl words
    · exact firm.follows (fun _ _ _ => rfl) _

/-- What scrubbing makes of a string without nested URLs holds no secret. -/
theorem clean_scrubText (words : WordClass isWord) {secrets : List String}
    (apart : SecretsApart secrets) {value : String}
    (flat : ¬ Nested isWord secrets value.toList) :
    ¬ Holds isWord secrets (scrubText isWord secrets value).1 := by
  rintro ⟨m, member, found⟩
  rw [scrubText_eq, String.toList_ofList, matchers_eq, redactAll_append, redactAll_cons,
    redactAll_nil] at found
  rw [matchers_eq] at member
  have firm := @firm_earlier isWord secrets apart
  obtain ⟨self, later⟩ := @earlier_follow isWord secrets apart
  rcases List.mem_append.mp member with among | last
  · refine (firm m among).kept sized_databaseUrl (databaseUrl_followed words apart m among) ?_ found
    exact not_finds_redactAll firm self later value.toList m among
  · obtain rfl := List.mem_singleton.mp last
    refine @not_finds_databaseUrl isWord words secrets _ ?_ found
    refine redactAll_induction (P := fun text => ¬ Nested isWord secrets text) flat ?_
    intro m among text flat nested
    refine flat (Nested.of_blurs words (apart_spot apart) (Scan.blurs (scan_redact
      (firm m among).toSized redacted text) fun matched => spot_of_earlier among matched) nested)

end

end IncidentTriage.Verified

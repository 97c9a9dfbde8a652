import AccessLog.Proofs.PatternRegistration
import AccessLog.Source

/-!
# Configuration checks come first

Every parse first prepares its pipeline, and preparing checks the configuration in a fixed order:
the options, all their problems listed at once; the decoder, since a pattern parser needs a
pattern; the filters, compiled in order against the fields the decoder is known to produce, the
first that does not compile failing; and the line numbers to skip, which options without problems
always give as numbers, so that this last check never fails after the first. `Parser.ConfigFault`
names the first check that fails, and `Parser.prepare_eq_error_iff` says that preparing fails
exactly with its error.

Each entry point then checks its source: a file's path; a gzip file's path, then its signature;
an archive's glob, then its path, then its header. A failed check ends the call with its error
before the driver starts, so nothing is written and no line is read, whatever the input.

A filter that does not compile fails with an error naming its expression, except when its
pattern passes a limit of the engine (`Filter.engineFault`): a repetition count of `4294967295`
or more, the ASCII and UNICODE flags together, a look-behind reaching too far back, groups nested
too deep. Then the engine's own error is raised (`Filter.compile_names_expression_iff`), and it is
no error of a filter expression (`Parser.filter_contradicting_flags`).

## Main statements

* `Filter.compileAll_eq_error_iff`: filters fail with the error of the first that fails.
* `Filter.compile_names_expression_iff`: which compile errors name the expression.
* `Parser.prepare_eq_error_iff`: preparing fails with the error of the first failing check.
* `Parser.configuration_first`: every entry point raises the first failing check's error,
  writing nothing, for every input.
* `Parser.filter_contradicting_flags`: a filter with contradicting flags raises a value error.
-/

namespace AccessLog

open Regex Text Archive

/-! ## Compiling filters -/

namespace Filter

theorem compileAll_eq_mapM (known : Option (List String)) (vs : List Value) :
    compileAll known vs = vs.mapM (compileValue · known) := by
  induction vs with
  | nil => rfl
  | cons v vs ih => rw [compileAll, List.mapM_cons, ih]

/-- Filters are compiled in order and fail with the error of the first that does not compile. -/
theorem compileAll_eq_error_iff {known : Option (List String)} {vs : List Value} {e : Error} :
    compileAll known vs = .error e ↔
      ∃ pre v post, vs = pre ++ v :: post ∧ (∀ u ∈ pre, (compileValue u known).isOk) ∧
        compileValue v known = .error e := by
  rw [compileAll_eq_mapM, mapM_eq_error_iff]

/-- The failure of a filter expression's pattern for passing a limit of the engine: the
expression is a known field, a pattern operator and a value, and the value fails to compile as a
pattern for a reason other than being malformed. -/
def engineFault (s : String) (known : Option (List String)) : Option CompileError :=
  match splitBlanks s with
  | [name, tok, value] =>
    if known.any (fun ks => !ks.contains name) then none
    else
      match Operator.ofToken? tok with
      | some op =>
        if op.isRegex then
          match Pattern.compile value { ignoreCase := op.ignoresCase } with
          | .error ce => if ce.isMalformed then none else some ce
          | .ok _ => none
        else none
      | none => none
  | _ => none

/-- **Which compile errors name the expression.** A filter expression that does not compile fails
with an error naming it exactly when its pattern passes no limit of the engine. -/
theorem compile_names_expression_iff {s : String} {known : Option (List String)} {e : Error}
    (h : compile s known = .error e) : (∃ f, e = .expression f s) ↔ engineFault s known = none := by
  unfold compile at h
  unfold engineFault
  rcases hw : splitBlanks s with _ | ⟨name, _ | ⟨tok, _ | ⟨value, _ | ⟨w, ws⟩⟩⟩⟩ <;>
    simp only [hw] at h ⊢
  case cons.cons.cons.nil =>
    by_cases hk : known.any (fun ks => !ks.contains name) = true
    · rw [if_pos hk] at h ⊢
      cases h
      simp
    rw [if_neg hk] at h ⊢
    cases hop : Operator.ofToken? tok with
    | none =>
      simp only [hop] at h ⊢
      cases h
      simp
    | some op =>
      simp only [hop] at h ⊢
      by_cases hre : op.isRegex = true
      · rw [if_pos hre] at h ⊢
        cases hc : Pattern.compile value { ignoreCase := op.ignoresCase } with
        | ok p => simp [hc] at h
        | error ce =>
          cases ce <;> simp only [hc] at h ⊢ <;> cases h <;> simp [CompileError.isMalformed]
      · rw [if_neg hre] at h ⊢
        by_cases hn : op.isNumeric = true
        · rw [if_pos hn] at h
          cases hx : readPlainNumber value with
          | ok x => simp [hx] at h
          | error _ =>
            simp only [hx] at h
            cases h
            simp
        · rw [if_neg hn] at h
          cases h
  all_goals
    cases h
    simp

end Filter

/-! ## Preparing a parse -/

namespace Options

variable {o : Options}

/-- Options that pass their check give every filter as text. -/
theorem filters_text (h : o.problems = []) : ∀ v ∈ o.filters, ∃ s, v = .str s := by
  simp only [problems, List.append_eq_nil_iff, List.filterMap_eq_nil_iff] at h
  intro v hv
  have hf := h.1.2 v hv
  cases v with
  | str s => exact ⟨s, rfl⟩
  | _ => simp [filterProblem] at hf

/-- Options that pass their check give every line number to skip as a number, which can be
hashed. -/
theorem skipLines_hashable (h : o.problems = []) :
    o.skipLines.findSome? Value.unhashableKind = none := by
  simp only [problems, List.append_eq_nil_iff, List.filterMap_eq_nil_iff] at h
  rw [List.findSome?_eq_none_iff]
  intro v hv
  have hs := h.1.1.1 v hv
  cases v with
  | int n => simp [Value.unhashableKind, Value.unhashableKindIn]
  | _ => simp [skipLineProblem] at hs

end Options

/-- A decoder fails only for a pattern parser without patterns. -/
theorem Parser.decoder_eq_error_iff {p : Parser} {e : Error} :
    p.decoder = .error e ↔ ∃ s : PatternSet, p.scheme = .patterns s ∧ s.isEmpty = true ∧
      e = .noPatterns := by
  unfold Parser.decoder
  split
  · rename_i s hs
    by_cases he : s.isEmpty
    · rw [if_pos he]
      constructor
      · rintro ⟨⟩
        exact ⟨s, hs, he, rfl⟩
      · rintro ⟨s', -, -, rfl⟩
        rfl
    · rw [if_neg he]
      constructor
      · rintro ⟨⟩
      · rintro ⟨s', hs', he', rfl⟩
        rw [hs] at hs'
        cases hs'
        exact absurd he' he
  · rename_i hs
    constructor
    · rintro ⟨⟩
    · rintro ⟨s', hs', -, -⟩
      rw [hs] at hs'
      cases hs'

/-- With options that pass their check, a pipeline is made unless a filter fails to compile
against the decoder's known fields: then the first that fails gives the error. -/
theorem Pipeline.create_eq_error_iff {d : Decoder} {o : Options} (ho : o.problems = [])
    {e : Error} :
    Pipeline.create d o = .error e ↔
      ∃ pre s post, o.filters = pre ++ .str s :: post ∧
        (∀ u ∈ pre, (Filter.compileValue u d.knownFields).isOk) ∧
        Filter.compile s d.knownFields = .error e := by
  have hcreate : Pipeline.create d o = .error e ↔
      Filter.compileAll d.knownFields o.filters = .error e := by
    unfold Pipeline.create
    simp only [Options.skipLines_hashable ho]
    by_cases hf : o.filters.isEmpty
    · rw [List.isEmpty_iff.mp hf]
      simp [bind, Except.bind, pure, Except.pure, Filter.compileAll]
    · rw [if_neg hf]
      cases Filter.compileAll d.knownFields o.filters <;> simp [bind, Except.bind, pure, Except.pure]
  rw [hcreate, Filter.compileAll_eq_error_iff]
  constructor
  · rintro ⟨pre, v, post, hfs, hpre, hv⟩
    obtain ⟨s, rfl⟩ := Options.filters_text ho v (hfs ▸ List.mem_append_right pre List.mem_cons_self)
    exact ⟨pre, s, post, hfs, hpre, hv⟩
  · rintro ⟨pre, s, post, hfs, hpre, hs⟩
    exact ⟨pre, .str s, post, hfs, hpre, hs⟩

namespace Parser

/-- The first configuration check that fails when a parse with `p` is prepared, with its
error. -/
inductive ConfigFault (p : Parser) : Error → Prop where
  /-- The options have problems, all of them listed. -/
  | options : p.options.problems ≠ [] → ConfigFault p (.options p.options.problems)
  /-- A pattern parser holds no pattern. -/
  | noPatterns {s : PatternSet} : p.options.problems = [] → p.scheme = .patterns s →
      s.isEmpty = true → ConfigFault p .noPatterns
  /-- A filter does not compile against the fields the decoder is known to produce: the first
  one, in order, that does not. -/
  | filter {d : Decoder} {pre post : List Value} {s : String} {e : Error} :
      p.options.problems = [] → p.decoder = .ok d → p.options.filters = pre ++ .str s :: post →
      (∀ u ∈ pre, (Filter.compileValue u d.knownFields).isOk) →
      Filter.compile s d.knownFields = .error e → ConfigFault p e

/-- **Preparing checks the configuration in order.** Preparing a parse fails exactly with the
error of the first configuration check that fails. -/
theorem prepare_eq_error_iff (p : Parser) (e : Error) : p.prepare = .error e ↔ p.ConfigFault e := by
  unfold prepare
  by_cases hp : p.options.problems = []
  · simp only [hp, List.isEmpty_nil, Bool.not_true, Bool.false_eq_true, ↓reduceIte]
    cases hd : p.decoder with
    | error e' =>
      obtain ⟨s, hs, hempty, rfl⟩ := decoder_eq_error_iff.mp hd
      simp only [bind, Except.bind]
      constructor
      · rintro ⟨⟩
        exact .noPatterns hp hs hempty
      · intro h
        cases h with
        | options h => exact absurd hp h
        | noPatterns => rfl
        | filter _ hd' => rw [hd] at hd'; cases hd'
    | ok d =>
      simp only [bind, Except.bind]
      rw [Pipeline.create_eq_error_iff hp]
      constructor
      · rintro ⟨pre, s, post, hfs, hpre, hs⟩
        exact .filter hp hd hfs hpre hs
      · intro h
        cases h with
        | options h => exact absurd hp h
        | noPatterns _ hs hempty =>
          have := decoder_eq_error_iff.mpr ⟨_, hs, hempty, rfl⟩
          rw [hd] at this
          cases this
        | filter _ hd' hfs hpre hs =>
          rw [hd] at hd'
          cases hd'
          exact ⟨_, _, _, hfs, hpre, hs⟩
  · have hne : (!p.options.problems.isEmpty) = true := by simpa [List.isEmpty_iff] using hp
    simp only [hne, ↓reduceIte]
    constructor
    · rintro ⟨⟩
      exact .options hp
    · intro h
      cases h with
      | options => rfl
      | noPatterns h => exact absurd h hp
      | filter h => exact absurd h hp

/-! ## Entry points -/

section EntryPoints

variable (p : Parser) {e : Error}

theorem parseFeed_of_prepare_error (h : p.prepare = .error e) (feed : LineFeed) (source : String)
    (budget : Option Nat) : p.parseFeed feed source budget = ⟨"", .error e⟩ := by
  simp only [parseFeed, h]

theorem parseFile_of_prepare_error (h : p.prepare = .error e) (t : FileTree) (path : String) :
    p.parseFile t path = ⟨"", .error e⟩ := by
  simp only [parseFile, h]

theorem parseGzip_of_prepare_error (h : p.prepare = .error e) (t : FileTree) (path : String) :
    p.parseGzip t path = ⟨"", .error e⟩ := by
  simp only [parseGzip, h]

theorem parseZip_of_prepare_error (h : p.prepare = .error e) (t : FileTree) (path : String)
    (glob : Value) (budget : Option Nat) : p.parseZip t path glob budget = ⟨"", .error e⟩ := by
  simp only [parseZip, h, bind, Except.bind]

variable {p} {pl : Pipeline} {t : FileTree} {path : String}

theorem parseFile_of_checkPath_error (h : p.prepare = .ok pl) (hc : t.checkPath path = .error e) :
    p.parseFile t path = ⟨"", .error e⟩ := by
  simp only [parseFile, h, hc]

theorem parseGzip_of_checkPath_error (h : p.prepare = .ok pl) (hc : t.checkPath path = .error e) :
    p.parseGzip t path = ⟨"", .error e⟩ := by
  simp only [parseGzip, h, hc]

theorem parseGzip_of_signature {bytes : ByteArray} (h : p.prepare = .ok pl)
    (hc : t.checkPath path = .ok bytes) (hs : startsWithGzipSignature bytes = false) :
    p.parseGzip t path = ⟨"", .error (.source .notGzip path)⟩ := by
  simp [parseGzip, h, hc, hs]

variable {glob : Value} {budget : Option Nat}

theorem parseZip_of_glob_error (h : p.prepare = .ok pl) (hg : validateGlobValue glob = .error e) :
    p.parseZip t path glob budget = ⟨"", .error e⟩ := by
  simp only [parseZip, h, hg, bind, Except.bind]

theorem parseZip_of_checkPath_error (h : p.prepare = .ok pl) (hg : validateGlobValue glob = .ok ())
    (hc : t.checkPath path = .error e) : p.parseZip t path glob budget = ⟨"", .error e⟩ := by
  simp only [parseZip, h, hg, hc, bind, Except.bind]

theorem parseZip_of_header_error {bytes : ByteArray} {f : ArchiveFault} (h : p.prepare = .ok pl)
    (hg : validateGlobValue glob = .ok ()) (hc : t.checkPath path = .ok bytes)
    (hz : isZipArchive bytes = .error f) :
    p.parseZip t path glob budget = ⟨"", .error (.archive f)⟩ := by
  simp only [parseZip, h, hg, hc, hz, bind, Except.bind, throw, throwThe, MonadExceptOf.throw]

theorem parseZip_of_not_zip {bytes : ByteArray} (h : p.prepare = .ok pl)
    (hg : validateGlobValue glob = .ok ()) (hc : t.checkPath path = .ok bytes)
    (hz : isZipArchive bytes = .ok false) :
    p.parseZip t path glob budget = ⟨"", .error (.source .notZip path)⟩ := by
  simp only [parseZip, h, hg, hc, hz, bind, Except.bind, throw, throwThe, MonadExceptOf.throw]

end EntryPoints

/-- **Configuration checks come first.** Preparing a parse fails exactly with the error of the
first configuration check that fails: the options, the decoder, the filters in order. When it
fails, every entry point raises that error before reading any of its input, and writes nothing:
a feed of lines (a text or a stream of items), a file, a gzip file, an archive. When it passes,
each entry point checks its source and raises the error of the first source check that fails,
still writing nothing: a file's path; a gzip file's path, then its signature; an archive's glob,
then its path, then its header. The error of a filter that does not compile names the expression
exactly when its pattern passes no limit of the engine. -/
theorem configuration_first (p : Parser) :
    (∀ e, p.prepare = .error e ↔ p.ConfigFault e) ∧
    (∀ e, p.prepare = .error e →
      (∀ feed source budget, p.parseFeed feed source budget = ⟨"", .error e⟩) ∧
      (∀ t path, p.parseFile t path = ⟨"", .error e⟩ ∧ p.parseGzip t path = ⟨"", .error e⟩) ∧
      (∀ t path glob budget, p.parseZip t path glob budget = ⟨"", .error e⟩)) ∧
    (∀ pl (t : FileTree) path e, p.prepare = .ok pl → t.checkPath path = .error e →
      p.parseFile t path = ⟨"", .error e⟩ ∧ p.parseGzip t path = ⟨"", .error e⟩) ∧
    (∀ pl (t : FileTree) path bytes, p.prepare = .ok pl → t.checkPath path = .ok bytes →
      startsWithGzipSignature bytes = false →
      p.parseGzip t path = ⟨"", .error (.source .notGzip path)⟩) ∧
    (∀ pl t path glob budget e, p.prepare = .ok pl → validateGlobValue glob = .error e →
      p.parseZip t path glob budget = ⟨"", .error e⟩) ∧
    (∀ pl (t : FileTree) path glob budget e, p.prepare = .ok pl →
      validateGlobValue glob = .ok () → t.checkPath path = .error e →
      p.parseZip t path glob budget = ⟨"", .error e⟩) ∧
    (∀ pl (t : FileTree) path glob budget bytes f, p.prepare = .ok pl →
      validateGlobValue glob = .ok () → t.checkPath path = .ok bytes →
      isZipArchive bytes = .error f → p.parseZip t path glob budget = ⟨"", .error (.archive f)⟩) ∧
    (∀ pl (t : FileTree) path glob budget bytes, p.prepare = .ok pl →
      validateGlobValue glob = .ok () → t.checkPath path = .ok bytes →
      isZipArchive bytes = .ok false →
      p.parseZip t path glob budget = ⟨"", .error (.source .notZip path)⟩) ∧
    (∀ s known e, Filter.compile s known = .error e →
      ((∃ f, e = .expression f s) ↔ Filter.engineFault s known = none)) :=
  ⟨prepare_eq_error_iff p,
    fun _ h ↦ ⟨parseFeed_of_prepare_error p h,
      fun t path ↦ ⟨parseFile_of_prepare_error p h t path, parseGzip_of_prepare_error p h t path⟩,
      parseZip_of_prepare_error p h⟩,
    fun _ _ _ _ h hc ↦ ⟨parseFile_of_checkPath_error h hc, parseGzip_of_checkPath_error h hc⟩,
    fun _ _ _ _ h hc hs ↦ parseGzip_of_signature h hc hs,
    fun _ _ _ _ _ _ h hg ↦ parseZip_of_glob_error h hg,
    fun _ _ _ _ _ _ h hg hc ↦ parseZip_of_checkPath_error h hg hc,
    fun _ _ _ _ _ _ _ h hg hc hz ↦ parseZip_of_header_error h hg hc hz,
    fun _ _ _ _ _ _ h hg hc hz ↦ parseZip_of_not_zip h hg hc hz,
    fun _ _ _ h ↦ Filter.compile_names_expression_iff h⟩

/-- **A filter with contradicting flags raises a value error.** The options holding the filter
`a =~ (?u)(?a)x` pass their check, yet a parse with them raises the engine's value error for the
contradicting ASCII and UNICODE flags, not an error of the filter expression, and writes
nothing. -/
theorem filter_contradicting_flags :
    let p : Parser := { scheme := .labeled, options := { filters := [.str "a =~ (?u)(?a)x"] } }
    let e : Error := .incompatibleFlags "ASCII and UNICODE flags are incompatible"
    p.options.problems = [] ∧ p.parseText "a:1\n" = ⟨"", .error e⟩ ∧ e.kindName = "ValueError" ∧
      Filter.engineFault "a =~ (?u)(?a)x" none =
        some (.incompatible "ASCII and UNICODE flags are incompatible") := by
  intro p e
  have hsplit : splitBlanks "a =~ (?u)(?a)x" = ["a", "=~", "(?u)(?a)x"] := by decide
  have hop : Operator.ofToken? "=~" = some .found := by decide
  have hcase : Operator.found.ignoresCase = false := by decide +kernel
  have herr : Pattern.compileError? "(?u)(?a)x" =
      some (.incompatible "ASCII and UNICODE flags are incompatible") := by
    decide +kernel
  have hc : Pattern.compile "(?u)(?a)x" { ignoreCase := false } =
      .error (.incompatible "ASCII and UNICODE flags are incompatible") :=
    Pattern.compileError?_eq_some_iff.mp herr
  have hf : Filter.compile "a =~ (?u)(?a)x" none = .error e := by
    simp [Filter.compile, hsplit, hop, hcase, Operator.isRegex, hc, e]
  have hprep : p.prepare = .error e :=
    (prepare_eq_error_iff p e).mpr
      (.filter rfl rfl (show p.options.filters = [] ++ [.str "a =~ (?u)(?a)x"] from rfl) (by simp) hf)
  refine ⟨rfl, parseFeed_of_prepare_error p hprep _ _ _, rfl, ?_⟩
  simp [Filter.engineFault, hsplit, hop, hcase, Operator.isRegex, hc, CompileError.isMalformed]

end Parser

end AccessLog

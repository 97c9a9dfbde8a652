import AccessLog.Cli.Run

/-!
# The exit status of the command line

A run of the command line reads its arguments and then goes through fixed stages: it lists the
presets when asked and stops, or it loads its settings, validates them, builds the parser they
describe, parses the input and writes the summary when asked. Each stage hands its result to the
next or stops the run, and the stage that stops it decides the status (`Ends`):

* a failure to load the settings ends the run with status 1 when it is a system or a value error,
  and escapes the run otherwise;
* settings with problems end it with status 1;
* a failure to build, parse or report ends it with status 1 when it is an error of the library or a
  value error, and escapes the run otherwise;
* a run that gets through every stage ends with status 0.

So a run escapes exactly when one of its stages fails with an error it does not catch
(`Ends.escapes_iff`), which the stages do not rule out: an overflowing repetition count in a
pattern, or a match the engine cannot report, is neither kind of error.

The log follows the status: a run that ends with status 1 logs an error last, and any other run
logs only warnings (`Logged`).

## Main statements

* `runArgs_ends`: a run ends as its stages say, and logs accordingly.
* `Ends.unique`: the stages determine the status.
* `Cli.exit_status`: the exit status of the command line, as one statement.
-/

namespace AccessLog.Cli

/-! ## The stages of a run -/

/-- What a run does once its settings are valid: it builds the parser, parses the input and
writes the summary when asked. The first failure stops it. -/
def work (a : Args) (s : Settings) (stdin : String) (files : FileTree) : Except Error Unit := do
  let p ← (buildParser s).2
  let t ← (parseInput p a s stdin files).result
  if a.summary then (t.report reportTop).map fun _ => () else pure ()

/-- Ends a run on an error: with status 1 when the run catches the error, which escapes
otherwise. -/
def catching (caught : Error → Bool) (e : Error) : Except Error Nat :=
  if caught e then .ok 1 else .error e

theorem catching_of_caught {caught : Error → Bool} {e : Error} (h : caught e = true) :
    catching caught e = .ok 1 := by
  simp [catching, h]

theorem catching_of_escapes {caught : Error → Bool} {e : Error} (h : caught e = false) :
    catching caught e = .error e := by
  simp [catching, h]

theorem eq_one_of_catching {caught : Error → Bool} {e : Error} {n : Nat}
    (h : catching caught e = .ok n) : n = 1 := by
  unfold catching at h
  split at h <;> cases h
  rfl

/-- The errors a run catches while loading its settings: system errors and value errors. -/
def loadCaught (e : Error) : Bool := e.isSystemError || e.isValueError

/-- The errors a run catches once its settings are valid: the library's own and value errors. -/
def workCaught (e : Error) : Bool := e.isParserError || e.isValueError

/-- The status the work on valid settings ends a run with: 0 when it succeeds, and that of its
failure otherwise. -/
def workExit : Except Error Unit → Except Error Nat
  | .ok () => .ok 0
  | .error e => catching workCaught e

/-- How a run ends after its arguments are read, stage by stage. -/
inductive Ends (a : Args) (stdin : String) (files : FileTree) (env : List (String × String)) :
    Except Error Nat → Prop where
  /-- Listing the presets ends the run with success. -/
  | listed : a.listPresets = true → Ends a stdin files env (.ok 0)
  /-- Settings that cannot be loaded. -/
  | unloadable {e : Error} : a.listPresets = false → (a.loadedSettings files env).2 = .error e →
      Ends a stdin files env (catching loadCaught e)
  /-- Settings with problems. -/
  | invalid {base : Settings} : a.listPresets = false → (a.loadedSettings files env).2 = .ok base →
      (overlay a base).validate ≠ [] → Ends a stdin files env (.ok 1)
  /-- A failure to build the parser, parse the input or write the summary. -/
  | failed {base : Settings} {e : Error} : a.listPresets = false →
      (a.loadedSettings files env).2 = .ok base → (overlay a base).validate = [] →
      work a (overlay a base) stdin files = .error e →
      Ends a stdin files env (catching workCaught e)
  /-- A run through every stage. -/
  | done {base : Settings} : a.listPresets = false → (a.loadedSettings files env).2 = .ok base →
      (overlay a base).validate = [] → work a (overlay a base) stdin files = .ok () →
      Ends a stdin files env (.ok 0)

/-! ## What a run logs -/

/-- A log record of a warning. -/
def IsWarning (l : String) : Prop := ∃ m, l = "WARNING - " ++ m

/-- What a run logs: an error last when it ends with status 1, and only warnings otherwise. -/
def Logged (o : Outcome) : Prop :=
  (o.exit = .ok 1 → ∃ m, o.log.getLast? = some ("ERROR - " ++ m)) ∧
  (o.exit ≠ .ok 1 → ∀ l ∈ o.log, IsWarning l)

theorem rejectedBatch_warning (n : Nat) (e : Error) : ∀ l ∈ rejectedBatch n e, IsWarning l := by
  unfold rejectedBatch
  split
  · simp only [List.mem_singleton, forall_eq]
    refine ⟨"Rejected pattern batch; clearing " ++ Number.natText n ++
      " previously registered pattern(s)", ?_⟩
    simp only [← String.append_assoc]
    rfl
  · simp

/-- Building a parser logs only warnings: the patterns dropped with a refused batch. -/
theorem buildParser_warning (s : Settings) : ∀ l ∈ (buildParser s).1, IsWarning l := by
  intro l hl
  unfold buildParser at hl
  repeat' (first | split at hl | dsimp only at hl)
  all_goals first
    | exact rejectedBatch_warning _ _ l hl
    | exact absurd hl List.not_mem_nil

theorem logged_of_warning {o : Outcome} (hw : ∀ l ∈ o.log, IsWarning l) (hx : o.exit ≠ .ok 1) :
    Logged o :=
  ⟨fun h => absurd h hx, fun _ => hw⟩

theorem fail_exit (o : Outcome) (e : Error) : (fail o e).exit = catching workCaught e := by
  unfold fail catching workCaught
  split <;> rfl

/-- A failure caught after warnings is logged as an error; one that escapes adds nothing. -/
theorem fail_logged {o : Outcome} (hw : ∀ l ∈ o.log, IsWarning l) (e : Error) :
    Logged (fail o e) := by
  unfold fail
  split
  · exact ⟨fun _ => ⟨e.message, by simp⟩, fun h => absurd rfl h⟩
  · exact logged_of_warning hw (by simp)

/-! ## A run ends as its stages say -/

/-- Running valid settings ends as their work does, after warnings only. -/
theorem runSettings_ends (a : Args) (s : Settings) (stdin : String) (files : FileTree)
    {o : Outcome} (hw : ∀ l ∈ o.log, IsWarning l) (hx : o.exit = .ok 0) :
    (runSettings a s stdin files o).exit = workExit (work a s stdin files) ∧
      Logged (runSettings a s stdin files o) := by
  unfold runSettings
  rcases hb : buildParser s with ⟨built, parser⟩
  have hbw : ∀ l ∈ o.log ++ built, IsWarning l := by
    intro l hl
    rcases List.mem_append.mp hl with hl | hl
    · exact hw l hl
    · exact buildParser_warning s l (by rw [hb]; exact hl)
  dsimp only
  cases parser with
  | error e =>
    have hwork : work a s stdin files = .error e := by simp [work, hb, bind, Except.bind]
    rw [hwork]
    exact ⟨fail_exit _ e, fail_logged hbw e⟩
  | ok p =>
    dsimp only
    cases hr : (parseInput p a s stdin files).result with
    | error e =>
      have hwork : work a s stdin files = .error e := by simp [work, hb, hr, bind, Except.bind]
      rw [hwork]
      exact ⟨fail_exit _ e, fail_logged hbw e⟩
    | ok t =>
      dsimp only
      cases hs : a.summary with
      | false =>
        have hwork : work a s stdin files = .ok () := by
          simp [work, hb, hr, hs, bind, Except.bind, pure, Except.pure]
        simp only [Bool.false_eq_true, ↓reduceIte, hwork]
        exact ⟨hx, logged_of_warning hbw (by simp [hx])⟩
      | true =>
        simp only [↓reduceIte]
        cases hrep : t.report reportTop with
        | error e =>
          have hwork : work a s stdin files = .error e := by
            simp [work, hb, hr, hs, hrep, bind, Except.bind, Except.map]
          rw [hwork]
          exact ⟨fail_exit _ e, fail_logged hbw e⟩
        | ok text =>
          have hwork : work a s stdin files = .ok () := by
            simp [work, hb, hr, hs, hrep, bind, Except.bind, Except.map]
          rw [hwork]
          exact ⟨hx, logged_of_warning hbw (by simp [hx])⟩

/-- **A run ends as its stages say**, and logs an error last exactly when it ends with status 1. -/
theorem runArgs_ends (a : Args) (stdin : String) (files : FileTree) (env : List (String × String)) :
    Ends a stdin files env (runArgs a stdin files env).exit ∧
      Logged (runArgs a stdin files env) := by
  unfold runArgs
  cases hl : a.listPresets with
  | true => exact ⟨.listed hl, logged_of_warning (by simp) (by simp)⟩
  | false =>
    simp only [Bool.false_eq_true, ↓reduceIte]
    rcases hls : a.loadedSettings files env with ⟨warnings, loaded⟩
    have hw : ∀ l ∈ warnings.map ("WARNING - " ++ ·), IsWarning l := by simp [IsWarning]
    dsimp only
    cases loaded with
    | error e =>
      have hend : Ends a stdin files env (catching loadCaught e) := .unloadable hl (by rw [hls])
      dsimp only
      split
      · rename_i hc
        rw [catching_of_caught hc] at hend
        refine ⟨hend, fun _ => ⟨"Cannot load configuration: " ++ e.message, ?_⟩,
          fun h => absurd rfl h⟩
        simp only [List.getLast?_append, List.getLast?_singleton, Option.some_or,
          ← String.append_assoc]
        rfl
      · rename_i hc
        rw [catching_of_escapes (Bool.of_not_eq_true hc)] at hend
        exact ⟨hend, logged_of_warning hw (by simp)⟩
    | ok base =>
      dsimp only
      by_cases hv : (overlay a base).validate = []
      · simp only [hv, List.isEmpty_nil, Bool.not_true, Bool.false_eq_true, ↓reduceIte]
        obtain ⟨hexit, hlog⟩ := runSettings_ends a (overlay a base) stdin files
          (o := { exit := .ok 0, log := warnings.map ("WARNING - " ++ ·) }) hw rfl
        refine ⟨?_, hlog⟩
        rw [hexit]
        cases hwork : work a (overlay a base) stdin files with
        | error e => exact .failed hl (by rw [hls]) hv hwork
        | ok u => exact .done hl (by rw [hls]) hv hwork
      · have hne : (overlay a base).validate.isEmpty = false := by simpa using hv
        simp only [hne, Bool.not_false, ↓reduceIte]
        refine ⟨.invalid hl (by rw [hls]) hv, fun _ => ?_, fun h => absurd rfl h⟩
        obtain ⟨p, hp⟩ := Option.ne_none_iff_exists'.mp (mt List.getLast?_eq_none_iff.mp hv)
        refine ⟨"Invalid settings: " ++ p, ?_⟩
        simp only [List.getLast?_append, List.getLast?_map, hp, Option.map_some, Option.some_or,
          ← String.append_assoc]
        rfl

/-! ## The stages determine the status -/

section Determined

variable {a : Args} {stdin : String} {files : FileTree} {env : List (String × String)}

/-- The stages of a run leave it one way to end. -/
theorem Ends.unique {x y : Except Error Nat} (hx : Ends a stdin files env x)
    (hy : Ends a stdin files env y) : x = y := by
  cases hx <;> cases hy <;> simp_all

theorem runArgs_exit_iff {x : Except Error Nat} :
    (runArgs a stdin files env).exit = x ↔ Ends a stdin files env x :=
  ⟨fun h => h ▸ (runArgs_ends a stdin files env).1,
    fun h => (runArgs_ends a stdin files env).1.unique h⟩

/-- A run that does not escape ends with status 0 or 1. -/
theorem Ends.ok_status {n : Nat} (h : Ends a stdin files env (.ok n)) : n = 0 ∨ n = 1 := by
  generalize hx : Except.ok n = x at h
  cases h with
  | listed => cases hx; exact .inl rfl
  | invalid => cases hx; exact .inr rfl
  | done => cases hx; exact .inl rfl
  | unloadable => exact .inr (eq_one_of_catching hx.symm)
  | failed => exact .inr (eq_one_of_catching hx.symm)

/-- Every failure a run can meet is one it catches: loading fails only with a system or a value
error, and the work on valid settings only with an error of the library or a value error. -/
def Catches (a : Args) (stdin : String) (files : FileTree) (env : List (String × String)) : Prop :=
  (∀ e, (a.loadedSettings files env).2 = .error e → loadCaught e = true) ∧
  ∀ base e, (a.loadedSettings files env).2 = .ok base → (overlay a base).validate = [] →
    work a (overlay a base) stdin files = .error e → workCaught e = true

/-- **An error escapes a run exactly when a stage fails with an error the run does not catch.** -/
theorem Ends.escapes_iff :
    (∃ e, Ends a stdin files env (.error e)) ↔
      a.listPresets = false ∧ ¬Catches a stdin files env := by
  constructor
  · rintro ⟨e, h⟩
    generalize hx : Except.error e = x at h
    cases h with
    | listed => cases hx
    | invalid => cases hx
    | done => cases hx
    | unloadable hl hload =>
      refine ⟨hl, fun hc => ?_⟩
      rw [catching_of_caught (hc.1 _ hload)] at hx
      cases hx
    | failed hl hload hv hwork =>
      refine ⟨hl, fun hc => ?_⟩
      rw [catching_of_caught (hc.2 _ _ hload hv hwork)] at hx
      cases hx
  · rintro ⟨hl, hnc⟩
    simp only [Catches, Classical.not_and_iff_not_or_not, Classical.not_forall,
      Bool.not_eq_true] at hnc
    rcases hnc with ⟨e, hload, hc⟩ | ⟨base, e, hload, hv, hwork, hc⟩
    · have h : Ends a stdin files env (catching loadCaught e) := .unloadable hl hload
      exact ⟨e, catching_of_escapes hc ▸ h⟩
    · have h : Ends a stdin files env (catching workCaught e) := .failed hl hload hv hwork
      exact ⟨e, catching_of_escapes hc ▸ h⟩

end Determined

/-! ## The command line -/

/-- How the command line ends: help and wrong arguments end it before any stage, and otherwise
the stages of the run the arguments ask for decide. -/
inductive Exits (argv : List String) (stdin : String) (files : FileTree)
    (env : List (String × String)) : Except Error Nat → Prop where
  /-- Asking for help ends it with success. -/
  | help : readArgs argv = .error .help → Exits argv stdin files env (.ok 0)
  /-- Wrong arguments end it with status 2. -/
  | usage {m : String} : readArgs argv = .error (.usage m) → Exits argv stdin files env (.ok 2)
  /-- Arguments that are read start a run. -/
  | ran {a : Args} {x : Except Error Nat} : readArgs argv = .ok a → Ends a stdin files env x →
      Exits argv stdin files env x

section CommandLine

variable {argv : List String} {stdin : String} {files : FileTree} {env : List (String × String)}

theorem run_exit_iff {x : Except Error Nat} :
    (run argv stdin files env).exit = x ↔ Exits argv stdin files env x := by
  unfold run
  cases ha : readArgs argv with
  | error stop =>
    cases stop with
    | help =>
      constructor
      · rintro rfl
        exact .help ha
      · intro h
        cases h <;> simp_all
    | usage m =>
      constructor
      · rintro rfl
        exact .usage ha
      · intro h
        cases h <;> simp_all
  | ok a =>
    constructor
    · intro h
      exact .ran ha (runArgs_exit_iff.mp h)
    · intro h
      cases h with
      | help h => simp [ha] at h
      | usage h => simp [ha] at h
      | ran h hends =>
        simp only [ha, Except.ok.injEq] at h
        subst h
        exact runArgs_exit_iff.mpr hends

theorem run_logged : Logged (run argv stdin files env) := by
  unfold run
  split
  · exact logged_of_warning (by simp) (by simp)
  · exact logged_of_warning (by simp) (by simp)
  · exact (runArgs_ends _ stdin files env).2

/-- **The exit status of the command line.** A run ends with the status its stages give: 0 for
help, for a listing of the presets and for a run through every stage, 2 for wrong arguments, and 1
for settings that cannot be loaded or have problems and for the failures of building, parsing or
reporting that the run catches; a stage that fails with an error the run does not catch lets that
error escape. A run that ends with status 1 logs an error last, and any other logs only warnings.
No error escapes exactly when every stage of the run the arguments ask for catches its failures. -/
theorem exit_status (argv : List String) (stdin : String) (files : FileTree)
    (env : List (String × String)) :
    (∀ x, (run argv stdin files env).exit = x ↔ Exits argv stdin files env x) ∧
    (∀ n, (run argv stdin files env).exit = .ok n → n = 0 ∨ n = 1 ∨ n = 2) ∧
    Logged (run argv stdin files env) ∧
    ((∀ e, (run argv stdin files env).exit ≠ .error e) ↔
      ∀ a, readArgs argv = .ok a → a.listPresets = false → Catches a stdin files env) := by
  refine ⟨fun _ => run_exit_iff, fun n hn => ?_, run_logged, ?_⟩
  · cases run_exit_iff.mp hn with
    | help => exact .inl rfl
    | usage => exact .inr (.inr rfl)
    | ran _ hends => exact (hends.ok_status).imp_right .inl
  · constructor
    · intro hno a ha hl
      refine Classical.byContradiction fun hnc => ?_
      obtain ⟨e, hends⟩ := Ends.escapes_iff.mpr ⟨hl, hnc⟩
      exact hno e (run_exit_iff.mpr (.ran ha hends))
    · intro hc e he
      cases run_exit_iff.mp he with
      | ran ha hends =>
        obtain ⟨hl, hnc⟩ := Ends.escapes_iff.mp ⟨e, hends⟩
        exact hnc (hc _ ha hl)

end CommandLine

/-- **A match the engine cannot report escapes the command line.** The arguments
`--pattern (?P<m>(?:(?:(?P<a>a)|b))*+)` are read, and the settings they give are valid, but the
pattern's match of `abb` in the input line `abbc` cannot be reported: the parse stops with the
engine's `SystemError`, an error the run does not catch, so it escapes instead of ending the run
with status 1. -/
theorem unreported_match_escapes :
    ∃ e, (run ["--pattern", "(?P<m>(?:(?:(?P<a>a)|b))*+)"] "abbc\n" {} []).exit = .error e ∧
      e.kindName = "SystemError" := by
  have h : Except.casesOn (motive := fun _ => Bool)
      (run ["--pattern", "(?P<m>(?:(?:(?P<a>a)|b))*+)"] "abbc\n" {} []).exit
      (fun e => e.kindName == "SystemError") (fun _ => false) = true := by
    decide +kernel
  cases hx : (run ["--pattern", "(?P<m>(?:(?:(?P<a>a)|b))*+)"] "abbc\n" {} []).exit with
  | error e =>
    rw [hx] at h
    exact ⟨e, rfl, by simpa using h⟩
  | ok n =>
    rw [hx] at h
    cases h

end AccessLog.Cli

import AccessLog.Cli.Args
import AccessLog.Config.Load
import AccessLog.Summary

/-!
# Running the command line

One run of the log converter, as a pure function of its arguments, its standard input, the
files it may read and its environment. It gives the exit status, what was written to standard
output and standard error, and the log records of warnings and errors.

A run reads its arguments (help and usage errors end it at once), lists the presets when asked,
loads the settings — from a configuration file named by `--config`, or the environment when that
file is missing — and lets the command-line flags override them. Settings with problems are
logged and end the run. Then it builds the parser the settings describe and parses the input:
standard input when no input is named, else a zip archive, a gzip file or a plain file by the
name's suffix. Failures of the library and value errors are logged and end the run with status
1; any other failure escapes the run. Finally the summary is written to standard error when it
was asked for.

## Main statements

* `run_help`: asking for help prints the help text.
-/

namespace AccessLog.Cli

open AccessLog.Text AccessLog.Number

/-- What a run produced. -/
structure Outcome where
  /-- The exit status, or the error that escaped the run. -/
  exit : Except Error Nat
  /-- The text written to standard output. -/
  stdout : String := ""
  /-- The text written to standard error. -/
  stderr : String := ""
  /-- The log records of warnings and errors, each `LEVEL - message`. -/
  log : List String := []

/-- Ends a run with a failure: logged as an error with status 1 when it is one of the library's
or a value error, escaping the run otherwise. -/
def fail (o : Outcome) (e : Error) : Outcome :=
  if e.isParserError || e.isValueError then
    { o with exit := .ok 1, log := o.log ++ ["ERROR - " ++ e.message] }
  else { o with exit := .error e }

/-- The flags of the command line, laid over settings. -/
def overlay (a : Args) (s : Settings) : Settings :=
  let given (v : Option String) : Option String := v.filter (!·.isEmpty)
  { s with
    preset := ((given a.preset).map Value.str).getD s.preset
    patterns := if a.patterns.isEmpty then s.patterns else a.patterns.map .str
    labels := match given a.labels with
      | some l => (((pieces "," l).map trimBlanks).filter (!·.isEmpty)).map .str
      | none => s.labels
    filters := if a.filters.isEmpty then s.filters else a.filters.map .str
    skipLines := match a.skipLines with
      | some ns => if ns.isEmpty then s.skipLines else ns
      | none => s.skipLines
    marked := a.marked || s.marked
    emitUnmatched := a.emitUnmatched || s.emitUnmatched
    lineNumber := a.lineNumber || s.lineNumber
    handler := ((given a.format).map Value.str).getD s.handler
    globPattern := ((given a.glob).map Value.str).getD s.globPattern }

/-- The warning logged when a batch of patterns is refused and the `n` patterns registered
before it are dropped; only refusals of a pattern as such are logged. -/
def rejectedBatch (n : Nat) (e : Error) : List String :=
  if PatternSet.refusesPattern e then
    ["WARNING - Rejected pattern batch; clearing " ++ natText n ++
      " previously registered pattern(s)"]
  else []

/-- The error of a preset name that is not text. -/
def presetNameError (v : Value) : Error :=
  match v with
  | .bytes bs =>
    let lowered := bs.map fun b => if 65 ≤ b && b ≤ 90 then b + 32 else b
    .unknownPreset (Value.bytes lowered).literal (Preset.all.map Preset.name)
  | _ => .value (.noAttribute ("'" ++ v.qualifiedKindName ++ "' object has no attribute 'lower'"))

/-- Builds the parser the settings describe, with the warnings logged on the way. -/
def buildParser (s : Settings) : List String × Except Error Parser :=
  match s.toOptions with
  | .error e => ([], .error e)
  | .ok options =>
    if s.preset.truthy then
      match s.preset with
      | .str name =>
        match Preset.lookup name with
        | .error e => ([], .error e)
        | .ok pr =>
          let p := Parser.ofPreset pr options
          if s.patterns.isEmpty then ([], .ok p)
          else if !pr.usesPatterns then ([], .error (.extraPatterns name))
          else match p.addPatterns (s.patterns.map .value) with
            | (p, none) => ([], .ok p)
            | (_, some e) => (rejectedBatch pr.patterns.length e, .error e)
      | v => ([], .error (presetNameError v))
    else
      match Parser.ofPatterns (s.patterns.map .value) options with
      | .ok p => ([], .ok p)
      | .error e => (rejectedBatch 0 e, .error e)

/-- Parses the input the arguments name. -/
def parseInput (p : Parser) (a : Args) (s : Settings) (stdin : String) (files : FileTree) : Run :=
  match a.input.filter (!·.isEmpty) with
  | none => p.parseFeed (.ofText stdin) ""
  | some path =>
    let lowered := lowerString path
    if lowered.endsWith ".zip" then p.parseZip files path s.globPattern
    else if lowered.endsWith ".gz" then p.parseGzip files path
    else p.parseFile files path

/-- The settings a run loads, with the warnings logged on the way: from the configuration file
when one is named, the defaults otherwise. -/
def Args.loadedSettings (a : Args) (files : FileTree) (env : List (String × String)) :
    List String × Except Error Settings :=
  match a.config with
  | some c => loadSettings files (some (pathDisplay c)) env
  | none => ([], .ok {})

/-- Runs the parser that valid settings describe, after the outcome `o` of loading them: builds
it, parses the input and writes the summary when asked. -/
def runSettings (a : Args) (s : Settings) (stdin : String) (files : FileTree) (o : Outcome) :
    Outcome :=
  let (built, parser) := buildParser s
  let o := { o with log := o.log ++ built }
  match parser with
  | .error e => fail o e
  | .ok p =>
    let r := parseInput p a s stdin files
    let o := { o with stdout := r.written }
    match r.result with
    | .error e => fail o e
    | .ok t =>
      if a.summary then
        match t.report reportTop with
        | .ok text => { o with stderr := text ++ "\n" }
        | .error e => fail o e
      else o

/-- Runs the command line after its arguments were read. -/
def runArgs (a : Args) (stdin : String) (files : FileTree) (env : List (String × String)) :
    Outcome :=
  if a.listPresets then
    let listed := String.join (Preset.names.map fun n => "  " ++ n ++ "\n")
    { exit := .ok 0, stdout := "Available presets:\n" ++ listed }
  else
    let (warnings, loaded) := a.loadedSettings files env
    let o : Outcome := { exit := .ok 0, log := warnings.map ("WARNING - " ++ ·) }
    match loaded with
    | .error e =>
      if e.isSystemError || e.isValueError then
        let record := "ERROR - Cannot load configuration: " ++ e.message
        { o with exit := .ok 1, log := o.log ++ [record] }
      else { o with exit := .error e }
    | .ok base =>
      let s := overlay a base
      let problems := s.validate
      if !problems.isEmpty then
        { o with exit := .ok 1, log := o.log ++ problems.map ("ERROR - Invalid settings: " ++ ·) }
      else runSettings a s stdin files o

/-- Runs the command line. -/
def run (argv : List String) (stdin : String) (files : FileTree) (env : List (String × String)) :
    Outcome :=
  match readArgs argv with
  | .error .help => { exit := .ok 0, stdout := helpText }
  | .error (.usage m) => { exit := .ok 2, stderr := usageError m }
  | .ok a => runArgs a stdin files env

theorem readArgs_help :
    (match readArgs ["--help"] with | .error .help => true | _ => false) = true := by
  decide +kernel

theorem run_help (stdin : String) (files : FileTree) (env : List (String × String)) :
    (run ["--help"] stdin files env).stdout = helpText := by
  have h := readArgs_help
  unfold run
  split <;> simp_all

end AccessLog.Cli

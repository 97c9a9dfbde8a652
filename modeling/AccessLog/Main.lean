import AccessLog.Cli.Run

/-!
# The log converter

The executable: it reads what a run needs from the outside world — the files the arguments name,
standard input when the logs come from there, and the `ACCESS_LOG_` environment variables — runs
the command line as a pure function of them, and writes the outcome back: standard output,
standard error with the log records after it, and the exit status. An error escaping the run is
reported on standard error with status 1.

## Main statements

This module only connects the run to the world; the statements are about `Cli.run`.
-/

open AccessLog AccessLog.Cli

/-- The settings variables read from the environment. -/
def settingsVariables : List String :=
  ["PRESET", "PATTERNS", "LABELS", "FILTERS", "SKIP_LINES", "PREFIX", "EMIT_UNMATCHED",
    "LINE_NUMBER", "HANDLER", "GLOB_PATTERN"].map ("ACCESS_LOG_" ++ ·)

/-- Reads standard input to its end. -/
partial def readAll (stream : IO.FS.Stream) (acc : String) : IO String := do
  let line ← stream.getLine
  if line.isEmpty then return acc else readAll stream (acc ++ line)

/-- The files a run may read: the input and the configuration the arguments name. -/
def namedFiles (argv : List String) : List String :=
  match readArgs argv with
  | .ok a => a.input.toList ++ (a.config.map pathDisplay).toList
  | .error _ => []

/-- Whether a run reads standard input. -/
def readsStdin (argv : List String) : Bool :=
  match readArgs argv with
  | .ok a => !a.listPresets && (a.input.filter (!·.isEmpty)).isNone
  | .error _ => false

/-- Runs the log converter. -/
def main (argv : List String) : IO UInt32 := do
  let mut files : FileTree := {}
  for path in namedFiles argv do
    try
      files := files.insert path (.file (← IO.FS.readBinFile path))
    catch _ => pure ()
  let mut env : List (String × String) := []
  for name in settingsVariables do
    if let some v ← IO.getEnv name then env := env ++ [(name, v)]
  let input ← if readsStdin argv then readAll (← IO.getStdin) "" else pure ""
  let o := run argv input files env
  let out ← IO.getStdout
  let err ← IO.getStderr
  out.putStr o.stdout
  out.flush
  err.putStr o.stderr
  for record in o.log do err.putStrLn record
  match o.exit with
  | .ok n => return n.toUInt32
  | .error e =>
    err.putStrLn (e.kindName ++ ": " ++ e.message)
    return 1

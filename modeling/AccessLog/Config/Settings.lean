import AccessLog.Options
import AccessLog.Format
import AccessLog.Text.Split
import AccessLog.Text.Blank
import AccessLog.Text.Case

/-!
# Parser settings

The settings of one parser invocation: how lines are decoded (a preset, extra patterns), how
records are shaped (labels, filters, lines to skip), how output is decorated (markers,
unmatched lines, line numbers, the line handler) and which archive entries are read (a glob).

Settings come from a configuration value — typically a YAML mapping — or from environment
variables, and their values are kept as given: a configuration may hold any value where a
string is expected, and it is the validation and the options built from the settings that
judge them.

## From a configuration value

The settings may stand at the top of the configuration or under a `parser` key, with the output
options optionally grouped under `output` (whose entries win over the same keys outside it).
Missing or empty entries take their defaults. Each entry is read the way a dynamic language
reads it — `get` on the mapping, iteration into a list, conversion to an integer, truthiness —
and the first entry that cannot be read, in field order, is the error.

## From the environment

Each setting is an `ACCESS_LOG_` variable. Lists are comma separated, except patterns and
filters, which are separated by semicolons since expressions may contain commas; items are
trimmed and empty items dropped. Booleans are `true`, `1` or `yes` in any case. Line numbers
that are not integers are dropped.
-/

namespace AccessLog

open AccessLog.Text AccessLog.Number

/-- The settings of one parser invocation. -/
structure Settings where
  /-- The preset decoding lines, if any. -/
  preset : Value := .none
  /-- Patterns added after the preset's. -/
  patterns : List Value := []
  /-- The fields kept, in output order. -/
  labels : List Value := []
  /-- The filter expressions. -/
  filters : List Value := []
  /-- The line numbers skipped. -/
  skipLines : List Int := []
  /-- Whether written lines are marked. -/
  marked : Bool := false
  /-- Whether unmatched lines are written. -/
  emitUnmatched : Bool := false
  /-- Whether the line number becomes a field. -/
  lineNumber : Bool := false
  /-- The name of the line handler. -/
  handler : Value := .str "json"
  /-- The glob selecting archive entries. -/
  globPattern : Value := .str "*"
  deriving Inhabited

namespace Settings

/-- A value, or the empty mapping when it is falsy. -/
def orEmptyMap (v : Value) : Value := if v.truthy then v else .dict []

/-- A value, or the empty list when it is falsy. -/
def orEmptyList (v : Value) : Value := if v.truthy then v else .list []

/-- Reads the settings from a configuration value. -/
def ofValue (config : Value) : Except ValueFault Settings := do
  let config := orEmptyMap (← config.getOr "parser" config)
  let output := orEmptyMap (← config.getOr "output" (.dict []))
  let pick (key : String) (default : Value) : Except ValueFault Value := do
    if ← output.containsKey key then output.index key else config.getOr key default
  let preset ← config.getOr "preset" .none
  let patterns ← (orEmptyList (← config.getOr "patterns" .none)).items
  let labels ← (orEmptyList (← config.getOr "labels" .none)).items
  let filters ← (orEmptyList (← config.getOr "filters" .none)).items
  let skipLines ← (← (orEmptyList (← config.getOr "skip_lines" .none)).items).mapM Value.toInt
  let marked := (← pick "prefix" (.bool false)).truthy
  let emitUnmatched := (← pick "emit_unmatched" (.bool false)).truthy
  let lineNumber := (← pick "line_number" (.bool false)).truthy
  let handler ← pick "handler" (.str "json")
  let globPattern ← config.getOr "glob_pattern" (.str "*")
  return { preset, patterns, labels, filters, skipLines, marked, emitUnmatched, lineNumber,
           handler, globPattern }

/-- The items of a list setting: pieces between separators, trimmed, empty ones dropped. -/
def splitItems (value sep : String) : List String :=
  ((pieces sep value).map trimBlanks).filter (!·.isEmpty)

/-- Reads the settings from environment variables. -/
def ofEnv (env : List (String × String)) : Settings :=
  let var (key default : String) : String := (env.lookup ("ACCESS_LOG_" ++ key)).getD default
  let flag (key : String) : Bool := ["true", "1", "yes"].contains (lowerString (var key "false"))
  let numbers := (splitItems (var "SKIP_LINES" "") ",").filterMap fun item =>
    (Value.toInt (.str item)).toOption
  let preset := var "PRESET" ""
  { preset := if preset.isEmpty then .none else .str preset,
    patterns := (splitItems (var "PATTERNS" "") ";").map .str,
    labels := (splitItems (var "LABELS" "") ",").map .str,
    filters := (splitItems (var "FILTERS" "") ";").map .str,
    skipLines := numbers,
    marked := flag "PREFIX",
    emitUnmatched := flag "EMIT_UNMATCHED",
    lineNumber := flag "LINE_NUMBER",
    handler := .str (var "HANDLER" "json"),
    globPattern := .str (var "GLOB_PATTERN" "*") }

/-- The problems of the settings, in order. -/
def validate (s : Settings) : List String :=
  (if !s.preset.truthy && s.patterns.isEmpty then ["either preset or patterns is required"]
    else []) ++
  s.skipLines.filterMap (fun n =>
    if n < 1 then some ("skip_lines must be >= 1, got " ++ intText n) else none) ++
  (if !s.handler.truthy then ["handler is required"] else []) ++
  (if !s.globPattern.truthy then ["glob_pattern must not be empty"] else [])

/-- The settings as a dictionary. -/
def toValue (s : Settings) : Value :=
  .dict [(.str "preset", s.preset), (.str "patterns", .list s.patterns),
    (.str "labels", .list s.labels), (.str "filters", .list s.filters),
    (.str "skip_lines", .list (s.skipLines.map .int)), (.str "prefix", .bool s.marked),
    (.str "emit_unmatched", .bool s.emitUnmatched), (.str "line_number", .bool s.lineNumber),
    (.str "handler", s.handler), (.str "glob_pattern", s.globPattern)]

/-- The line format a handler value names: a string is looked up, an unhashable value is a type
error, and any other value names no format. -/
def handlerFormat (v : Value) : Except Error Format :=
  match v with
  | .str s => Format.lookup s
  | _ =>
    match v.unhashableKind with
    | some k => .error (.value (Value.unhashable k))
    | none => .error (.unknownFormat v.text (Format.all.map Format.name))

/-- The parse options of the settings; an unknown handler is an error. -/
def toOptions (s : Settings) : Except Error Options := do
  let f ← handlerFormat s.handler
  return { labels := s.labels, filters := s.filters, skipLines := s.skipLines.map .int,
           marked := s.marked, emitUnmatched := s.emitUnmatched, lineNumber := s.lineNumber,
           handler := .format f }

end Settings

end AccessLog

import AccessLog.Format
import AccessLog.Number.Read
import AccessLog.Text.Quoted
import AccessLog.Text.Split
import AccessLog.Text.Blank
import AccessLog.Text.Digit

/-!
# Command-line arguments

The command line of the log converter: its options, how its words are read, and the usage and
help texts.

Words are read the way the usual option parsers of scripting languages read them. First every
word is classified: the marker `--` makes every later word a plain argument; a word naming an
option (or `--name=value`) is that option; a long option may be abbreviated to any prefix that
names only one option (a prefix naming several is an error at once); a short option may carry its
value attached (`-iFILE`), and short flags may be grouped (`-vi FILE`): what follows a flag in
its word, an `=` included, is read as the next short option and the value attached to it, and a
character that starts no short option there is an error; a word that looks like a negative
number, or contains a space, is a plain argument; any other word starting with a dash is an
unknown option.

Then the options are taken in order. An option with a value takes the next word, which must be
a plain argument. Values are converted as they are taken — line numbers read as integers, the
format checked against the registered ones — and the first failure is the error. Asking for help
stops everything at once. Words no option took are errors, reported together at the end.

An error is reported as the usage text followed by `parse_logs.py: error: ` and the message.

## Main statements

* `CliOption.spellings_ne_nil`: every option has a spelling.
-/

namespace AccessLog.Cli

open AccessLog.Text AccessLog.Number

/-- The options of the command line, in the order they are declared. -/
inductive CliOption where
  | help
  | preset
  | pattern
  | input
  | glob
  | labels
  | filter
  | skipLines
  | marked
  | emitUnmatched
  | lineNumber
  | format
  | config
  | summary
  | listPresets
  | verbose
  deriving Repr, DecidableEq, Inhabited

namespace CliOption

/-- Every option, in declaration order. -/
def all : List CliOption :=
  [.help, .preset, .pattern, .input, .glob, .labels, .filter, .skipLines, .marked, .emitUnmatched,
    .lineNumber, .format, .config, .summary, .listPresets, .verbose]

/-- The spellings of an option, in declaration order. -/
def spellings : CliOption → List String
  | .help => ["-h", "--help"]
  | .preset => ["--preset"]
  | .pattern => ["--pattern"]
  | .input => ["--input", "-i"]
  | .glob => ["--glob"]
  | .labels => ["--labels"]
  | .filter => ["--filter"]
  | .skipLines => ["--skip-lines"]
  | .marked => ["--prefix"]
  | .emitUnmatched => ["--emit-unmatched"]
  | .lineNumber => ["--line-number"]
  | .format => ["--format"]
  | .config => ["--config"]
  | .summary => ["--summary"]
  | .listPresets => ["--list-presets"]
  | .verbose => ["--verbose", "-v"]

theorem spellings_ne_nil (o : CliOption) : o.spellings ≠ [] := by
  cases o <;> simp [spellings]

/-- Whether an option takes a value. -/
def takesValue : CliOption → Bool
  | .preset | .pattern | .input | .glob | .labels | .filter | .skipLines | .format | .config => true
  | _ => false

/-- The name of an option in messages: its spellings joined by slashes. -/
def displayName (o : CliOption) : String := "/".intercalate o.spellings

end CliOption

/-- Every spelling with its option, in declaration order. -/
def spellingTable : List (String × CliOption) :=
  CliOption.all.flatMap fun o => o.spellings.map (·, o)

/-- The option a word spells exactly, if any. -/
def spelled (w : String) : Option CliOption := spellingTable.lookup w

/-- How one word of the command line is read. -/
inductive Word where
  /-- The marker `--`. -/
  | marker
  /-- A plain argument. -/
  | plain
  /-- An option (unknown when `none`) as spelled, with a value attached to the word: after
  `=` (`true`) or directly (`false`). -/
  | option (opt : Option CliOption) (spelling : String) (attached : Option (Bool × String))
  deriving Repr, Inhabited

/-- Whether a word looks like a negative number: a dash and digits, or a dash, digits, a point
and digits; a final line feed is allowed. -/
def looksNegative (w : String) : Bool :=
  let body := match w.toList.reverse with
    | '\n' :: rest => rest.reverse
    | _ => w.toList
  match body with
  | '-' :: rest =>
    let whole := rest.takeWhile isDecimal
    let after := rest.dropWhile isDecimal
    (after.isEmpty && !whole.isEmpty) ||
      (match after with
        | '.' :: frac => !frac.isEmpty && frac.all isDecimal
        | _ => false)
  | _ => false

/-- The readings of a word as an abbreviated or attached option. -/
def optionReadings (w : String) : List (Option CliOption × String × Option (Bool × String)) :=
  match w.toList with
  | '-' :: '-' :: _ =>
    let (pfx, attached) := match w.splitOn "=" with
      | first :: rest@(_ :: _) => (first, some (true, "=".intercalate rest))
      | _ => (w, none)
    spellingTable.filterMap fun (s, o) =>
      if s.startsWith pfx then some (some o, s, attached) else none
  | '-' :: c :: rest =>
    let short := String.ofList ['-', c]
    spellingTable.filterMap fun (s, o) =>
      if s == short then some (some o, s, some (false, String.ofList rest))
      else if s.startsWith w then some (some o, s, none)
      else none
  | _ => []

/-- Classifies a word that is not the marker; an abbreviation naming several options is an
error. -/
def classify (w : String) : Except String Word := do
  let cs := w.toList
  if cs.isEmpty || cs.headD ' ' != '-' then return .plain
  if let some o := spelled w then return .option (some o) w none
  if cs.length == 1 then return .plain
  if let first :: rest@(_ :: _) := w.splitOn "=" then
    if let some o := spelled first then
      return .option (some o) first (some (true, "=".intercalate rest))
  match optionReadings w with
  | [] =>
    if looksNegative w || cs.contains ' ' then return .plain
    return .option none w none
  | [(o, s, a)] => return .option o s a
  | many =>
    throw ("ambiguous option: " ++ w ++ " could match " ++ ", ".intercalate (many.map (·.2.1)))

/-- Classifies every word: after the marker, every word is plain. -/
def classifyAll : List String → Except String (List Word)
  | [] => .ok []
  | w :: rest =>
    if w == "--" then .ok (.marker :: rest.map fun _ => .plain)
    else do
      let c ← classify w
      return c :: (← classifyAll rest)

/-- The arguments of one run. -/
structure Args where
  /-- `--preset`. -/
  preset : Option String := none
  /-- Every `--pattern`, in order. -/
  patterns : List String := []
  /-- `--input`. -/
  input : Option String := none
  /-- `--glob`. -/
  glob : Option String := none
  /-- `--labels`. -/
  labels : Option String := none
  /-- Every `--filter`, in order. -/
  filters : List String := []
  /-- `--skip-lines`, read as line numbers. -/
  skipLines : Option (List Int) := none
  /-- `--prefix`. -/
  marked : Bool := false
  /-- `--emit-unmatched`. -/
  emitUnmatched : Bool := false
  /-- `--line-number`. -/
  lineNumber : Bool := false
  /-- `--format`. -/
  format : Option String := none
  /-- `--config`. -/
  config : Option String := none
  /-- `--summary`. -/
  summary : Bool := false
  /-- `--list-presets`. -/
  listPresets : Bool := false
  /-- `--verbose`. -/
  verbose : Bool := false
  deriving Inhabited

/-- Why reading the arguments stopped early. -/
inductive Stop where
  /-- Help was asked for. -/
  | help
  /-- The arguments are wrong, for the reason given. -/
  | usage (message : String)
  deriving Repr, Inhabited

/-- Reads a list of line numbers: integers between commas, blank items skipped. -/
def readLineNumbers (value : String) : Option (List Int) :=
  ((pieces "," value).filter fun item => !(trimBlanks item).isEmpty).mapM fun item =>
    readInt? item

/-- An error of one option. -/
def optionError {α : Type} (o : CliOption) (message : String) : Except Stop α :=
  .error (.usage ("argument " ++ o.displayName ++ ": " ++ message))

/-- Takes an option with its value, if it has one. -/
def take (a : Args) (o : CliOption) (value : String) : Except Stop Args :=
  match o with
  | .help => .error .help
  | .preset => .ok { a with preset := some value }
  | .pattern => .ok { a with patterns := a.patterns ++ [value] }
  | .input => .ok { a with input := some value }
  | .glob => .ok { a with glob := some value }
  | .labels => .ok { a with labels := some value }
  | .filter => .ok { a with filters := a.filters ++ [value] }
  | .skipLines =>
    match readLineNumbers value with
    | some ns => .ok { a with skipLines := some ns }
    | none => optionError o ("Invalid line numbers: " ++ value ++
        ". Use a comma-separated list like 1,2,10")
  | .marked => .ok { a with marked := true }
  | .emitUnmatched => .ok { a with emitUnmatched := true }
  | .lineNumber => .ok { a with lineNumber := true }
  | .format =>
    let names := (Format.all.map Format.name).mergeSort fun x y => decide (x ≤ y)
    if names.contains value then .ok { a with format := some value }
    else optionError o ("invalid choice: " ++ quote value ++ " (choose from " ++
      ", ".intercalate (names.map quote) ++ ")")
  | .config => .ok { a with config := some value }
  | .summary => .ok { a with summary := true }
  | .listPresets => .ok { a with listPresets := true }
  | .verbose => .ok { a with verbose := true }

/-- What one option word yields: the options to take with their values, the words no option
took, and the place after the words used. -/
structure Taken where
  /-- The options and their values, in order. -/
  options : List (CliOption × String)
  /-- Words that no option took. -/
  extras : List String
  /-- The place after the words used. -/
  next : Nat

/-- Reads the option word at place `i`: a group of short flags is read flag by flag, at most
`fuel` of them. -/
def readOption (words : Array (String × Word)) (i : Nat) :
    Nat → Option CliOption → String → Option (Bool × String) → List (CliOption × String) →
    Except Stop Taken
  | 0, _, _, _, acc => .ok ⟨acc, [], i + 1⟩
  | fuel + 1, opt, spelling, attached, acc =>
    match opt with
    | none => .ok ⟨acc, [(words.getD i ("", .plain)).1], i + 1⟩
    | some o =>
      match attached with
      | some (afterEquals, value) =>
        let short := !spelling.startsWith "--"
        if !o.takesValue && short && !value.isEmpty then
          let next := String.ofList ['-', value.toList.headD ' ']
          let rest := String.ofList (value.toList.drop 1)
          match spelled next with
          | some o' =>
            let attached' := if rest.isEmpty then none else some (afterEquals, rest)
            readOption words i fuel (some o') next attached' (acc ++ [(o, "")])
          | none => optionError o ("ignored explicit argument " ++ quote value)
        else if o.takesValue then .ok ⟨acc ++ [(o, value)], [], i + 1⟩
        else optionError o ("ignored explicit argument " ++ quote value)
      | none =>
        if o.takesValue then
          match words[i + 1]? with
          | some (w, .plain) => .ok ⟨acc ++ [(o, w)], [], i + 2⟩
          | _ => optionError o "expected one argument"
        else .ok ⟨acc ++ [(o, "")], [], i + 1⟩

/-- Takes the options of the words from place `i` on, at most `fuel` option words. -/
def readFrom (words : Array (String × Word)) : Nat → Nat → Args → List String →
    Except Stop (Args × List String)
  | 0, _, a, extras => .ok (a, extras)
  | fuel + 1, i, a, extras =>
    let later := (List.range (words.size - i)).map (· + i)
    match later.find? fun k => (words.getD k ("", .plain)).2 matches .option .. with
    | none => .ok (a, extras ++ ((words.toList.drop i).map (·.1)))
    | some k =>
      let before := ((words.toList.drop i).take (k - i)).map (·.1)
      match words.getD k ("", .plain) with
      | (text, .option opt spelling attached) => do
        let t ← readOption words k (text.length + 1) opt spelling attached []
        let a ← t.options.foldlM (fun a (o, v) => take a o v) a
        readFrom words fuel t.next a (extras ++ before ++ t.extras)
      | _ => .ok (a, extras)

/-- Reads the arguments of a run. -/
def readArgs (argv : List String) : Except Stop Args := do
  let kinds ← (classifyAll argv).mapError Stop.usage
  let words := (argv.zip kinds).toArray
  let (a, extras) ← readFrom words (words.size + 1) 0 {} []
  if !extras.isEmpty then throw (.usage ("unrecognized arguments: " ++ " ".intercalate extras))
  return a

/-- The usage text. -/
def usageText : String :=
  "usage: parse_logs.py [-h] [--preset PRESET] [--pattern PATTERN]\n" ++
  "                     [--input INPUT] [--glob GLOB] [--labels LABELS]\n" ++
  "                     [--filter FILTER] [--skip-lines SKIP_LINES] [--prefix]\n" ++
  "                     [--emit-unmatched] [--line-number]\n" ++
  "                     [--format \x7bjson,key_value,ltsv,pretty_json,tsv\x7d]\n" ++
  "                     [--config CONFIG] [--summary] [--list-presets]\n" ++
  "                     [--verbose]\n"

/-- The help text. -/
def helpText : String :=
  usageText ++ "\n" ++
  "Convert access logs to structured output\n" ++
  "\n" ++
  "options:\n" ++
  "  -h, --help            show this help message and exit\n" ++
  "  --preset PRESET       Log format preset. Available: alb, apache_clf,\n" ++
  "                        apache_clf_vhost, clb, cloudfront, ltsv, nlb, s3\n" ++
  "  --pattern PATTERN     Named-capture regex pattern (repeatable, tried in\n" ++
  "                        order)\n" ++
  "  --input INPUT, -i INPUT\n" ++
  "                        Input file (.gz and .zip supported). Reads stdin when\n" ++
  "                        omitted\n" ++
  "  --glob GLOB           Glob selecting zip archive entries (default: *)\n" ++
  "  --labels LABELS       Comma-separated fields to output, in order\n" ++
  "  --filter FILTER       Filter expression 'field operator value' (repeatable,\n" ++
  "                        ANDed)\n" ++
  "  --skip-lines SKIP_LINES\n" ++
  "                        Comma-separated 1-based line numbers to skip\n" ++
  "  --prefix              Prefix output lines with a processed/unmatched marker\n" ++
  "  --emit-unmatched      Also write lines that match no pattern\n" ++
  "  --line-number         Add the line number as the first field\n" ++
  "  --format \x7bjson,key_value,ltsv,pretty_json,tsv\x7d\n" ++
  "                        Output format (default: json)\n" ++
  "  --config CONFIG       YAML config file; command-line flags override its\n" ++
  "                        values\n" ++
  "  --summary             Print the result summary to stderr when done\n" ++
  "  --list-presets        List all available presets and exit\n" ++
  "  --verbose, -v         Enable verbose logging\n" ++
  "\n" ++
  "Examples:\n" ++
  "  python scripts/parse_logs.py --preset apache_clf --input access.log\n" ++
  "  python scripts/parse_logs.py --preset alb --input alb.log.gz --format ltsv\n" ++
  "  python scripts/parse_logs.py --preset s3 --input logs.zip --glob \"*.log\"\n" ++
  "  python scripts/parse_logs.py --list-presets\n" ++
  "        \n"

/-- The text of a usage error. -/
def usageError (message : String) : String :=
  usageText ++ "parse_logs.py: error: " ++ message ++ "\n"

end AccessLog.Cli

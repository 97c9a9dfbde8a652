import AccessLog.Value
import AccessLog.Archive.Fault
import AccessLog.Regex.Match

/-!
# Errors

Every failure of the library is a value of `Error` that names its cause; the wording of each
cause is written once, in `Error.message`.

Failures fall into three families:

* *configuration* errors, found before the first line is read: a refused pattern, an empty
  pattern set, a filter expression that does not compile, a malformed glob, invalid options, an
  unknown preset or format, an unusable source;
* *line* errors, which stop a parse at one line: a filter that cannot be applied, a format that
  fails, a source that cannot be read any further. Their message ends with the line number and,
  when there is one, the line's text;
* errors of dynamic values (`ValueFault`) and of patterns compiled outside a pattern set.

A line's text is cut to a hundred characters in a message, a pattern's to eighty.

## Main statements

* `lineMessage_none`: a line error without a number is its bare message.
-/

namespace AccessLog

open AccessLog.Text AccessLog.Number AccessLog.Archive

/-- Why a pattern set refuses a pattern. -/
inductive PatternFault where
  /-- The pattern is not a well-formed regular expression, for the reason given. -/
  | doesNotCompile (detail : String)
  /-- The pattern captures nothing. -/
  | noCaptureGroup
  /-- Some capture group of the pattern has no name. -/
  | unnamedGroup
  deriving Repr, DecidableEq, Inhabited

/-- The sentence describing a refused pattern. -/
def PatternFault.message : PatternFault → String
  | .doesNotCompile d => "Pattern does not compile: " ++ d
  | .noCaptureGroup => "Capture group not found"
  | .unnamedGroup => "Non-named capture group detected"

/-- Why a filter expression does not compile. -/
inductive ExpressionFault where
  /-- The expression does not have exactly three blank-separated tokens. -/
  | malformed (tokens : Nat)
  /-- The field is not one the decoder produces. -/
  | unknownField (field : String)
  /-- The operator token is not one of the twelve operators. -/
  | unknownOperator (token : String)
  /-- The value of a regular-expression operator does not compile. -/
  | invalidRegex (value detail : String)
  /-- The value of a numeric operator is not a plain number. -/
  | invalidNumber (value : String)
  deriving Repr, DecidableEq, Inhabited

/-- The sentence describing an expression that does not compile. -/
def ExpressionFault.message : ExpressionFault → String
  | .malformed n => "Expected 'field operator value', got " ++ natText n ++ " token(s)"
  | .unknownField f => "Field '" ++ f ++ "' is not produced by the decoder"
  | .unknownOperator t => "Unknown operator '" ++ t ++ "'"
  | .invalidRegex v d => "Invalid regular expression '" ++ v ++ "': " ++ d
  | .invalidNumber v => "Invalid number '" ++ v ++ "'"

/-- Why a line stops a parse. -/
inductive LineFault where
  /-- A filter names a field the decoded record does not carry. -/
  | fieldMissing (field expression : String)
  /-- A numeric filter meets a field value that is not a plain number. -/
  | notNumeric (field value expression : String)
  /-- The line format failed, for the reason given. -/
  | formatFailed (detail : String)
  /-- The line format answered with something other than text, of the kind given. -/
  | formatNotText (kind : String)
  /-- The source could not be read at this line; `place` names the archive entry, if any. -/
  | readFailed (place : Option String) (fault : ReadFault)
  /-- The next archive entry could not be opened. -/
  | entryFailed (fault : ReadFault)
  deriving Repr, DecidableEq, Inhabited

/-- The sentence describing a failed line, before the line context is added. -/
def LineFault.message : LineFault → String
  | .fieldMissing f e =>
    "Field '" ++ f ++ "' missing from decoded record while applying filter " ++ quote e
  | .notNumeric f v e =>
    "Field '" ++ f ++ "' value " ++ quote v ++ " is not numeric for filter " ++ quote e
  | .formatFailed d => "Line handler failed: " ++ d
  | .formatNotText k => "Line handler returned " ++ k ++ ", expected str"
  | .readFailed place f =>
    let whereText := match place with
      | some e => if e.isEmpty then "input" else "archive entry '" ++ e ++ "'"
      | none => "input"
    "Cannot read " ++ whereText ++ ": " ++ f.message
  | .entryFailed f => "Cannot open archive entry: " ++ f.message

/-- Why a source cannot be used. -/
inductive SourceFault where
  /-- No path was given. -/
  | emptyPath
  /-- Nothing exists at the path. -/
  | missing
  /-- The path names a directory. -/
  | directory
  /-- The file does not start with the gzip magic bytes. -/
  | notGzip
  /-- The file is not a zip archive. -/
  | notZip
  deriving Repr, DecidableEq, Inhabited

/-- The headline of a source fault. -/
def SourceFault.headline : SourceFault → String
  | .emptyPath => "Empty path detected"
  | .missing => "File not found"
  | .directory => "Not a file"
  | .notGzip => "Not a gzip file"
  | .notZip => "Not a zip archive"

/-- The reason given for a source fault, if any. -/
def SourceFault.reason : SourceFault → String
  | .emptyPath => ""
  | .missing => "path does not exist"
  | .directory => "path is a directory"
  | .notGzip => "missing gzip header"
  | .notZip => "bad zip header"

/-- A failure of the library. -/
inductive Error where
  /-- A pattern set refuses the pattern `source`. -/
  | pattern (fault : PatternFault) (source : String)
  /-- A pattern set refuses the pattern compiled from the byte string `source`. -/
  | bytesPattern (fault : PatternFault) (source : List Nat)
  /-- A pattern decoder has no pattern to decode with. -/
  | noPatterns
  /-- The filter expression `text` does not compile. -/
  | expression (fault : ExpressionFault) (text : String)
  /-- An archive entry glob is malformed. -/
  | glob (glob : Value) (reason : String)
  /-- The options have problems, listed in order. -/
  | options (problems : List String)
  /-- No preset has this name. -/
  | unknownPreset (name : String) (available : List String)
  /-- No line format has this name. -/
  | unknownFormat (name : String) (available : List String)
  /-- The source at `path` cannot be used. -/
  | source (fault : SourceFault) (path : String)
  /-- A line stops the parse; `content` is its text, empty when not reported. -/
  | line (fault : LineFault) (number : Option Int) (content : String)
  /-- A pattern compiled outside a pattern set is malformed. -/
  | regex (message : String)
  /-- A repetition count of a pattern is too large. -/
  | overflow (message : String)
  /-- The flags of a pattern contradict each other. -/
  | incompatibleFlags (message : String)
  /-- A record was built from name and value lists of different lengths. -/
  | recordShape (names values : Nat)
  /-- A label-separated decoder was given an empty separator. -/
  | emptySeparator
  /-- A preset that decodes without patterns was given patterns. -/
  | extraPatterns (preset : String)
  /-- An aggregator was used after it was finalized. -/
  | finalized
  /-- An operation on a dynamic value failed. -/
  | value (fault : ValueFault)
  /-- A configuration file does not exist. -/
  | configMissing (path : String)
  /-- A configuration file could not be used, for the reason given. -/
  | config (message : String)
  /-- A source needs a feature that is not available. -/
  | unsupported (message : String)
  /-- An archive entry is encrypted. -/
  | encrypted (message : String)
  /-- An archive is broken beyond being recognized. -/
  | archive (fault : ArchiveFault)
  /-- A file to be opened is a directory. -/
  | isDirectory (path : String)
  /-- A text file is not UTF-8. -/
  | undecodable (fault : Utf8Fault)
  /-- LZMA data cannot be decoded, for the reason given. -/
  | lzma (message : String)
  /-- The pattern engine refuses a compiled pattern, for the reason given. -/
  | engine (message : String)
  /-- The pattern engine found a match in which a group ends before it starts. -/
  | groupSpan
  /-- Nesting ran deeper than the call stack allows, with the message given. -/
  | recursion (message : String)
  deriving Inhabited

/-- A pattern as shown in a message: cut to eighty characters. -/
def shownPattern (p : String) : String :=
  if p.length > 80 then quote (String.ofList (p.toList.take 80) ++ "...") else quote p

/-- The message of a line error: the fault, then the line number and, when there is one, the
line's text cut to a hundred characters. -/
def lineMessage (msg : String) (number : Option Int) (content : String) : String :=
  match number with
  | none => msg
  | some n =>
    if content.isEmpty then msg ++ " (line " ++ intText n ++ ")"
    else
      let shown := if content.length > 100 then String.ofList (content.toList.take 100) ++ "..."
        else content
      msg ++ " (line " ++ intText n ++ ": " ++ quote shown ++ ")"

theorem lineMessage_none (msg content : String) : lineMessage msg none content = msg := rfl

/-- The message of an unknown name, listing the registered names in order. -/
def unknownNameMessage (kind name : String) (available : List String) : String :=
  if available.isEmpty then "Unknown " ++ kind ++ ": '" ++ name ++ "'. None registered."
  else
    let sorted := available.mergeSort (fun a b => decide (a ≤ b))
    "Unknown " ++ kind ++ ": '" ++ name ++ "'. Available: " ++ ", ".intercalate sorted

/-- The message of an error. -/
def Error.message : Error → String
  | .pattern f p => f.message ++ " (pattern=" ++ shownPattern p ++ ")"
  | .bytesPattern f p => f.message ++ " (pattern=" ++ Value.bytesLiteral p ++ ")"
  | .noPatterns => "Cannot parse input: no patterns provided"
  | .expression f e => f.message ++ " (expression=" ++ quote e ++ ")"
  | .glob g r => "Invalid glob pattern " ++ g.literal ++ ": " ++ r
  | .options ps => "Invalid parse options: " ++ "; ".intercalate ps
  | .unknownPreset n a => unknownNameMessage "preset" n a
  | .unknownFormat n a => unknownNameMessage "line handler" n a
  | .source f p =>
    " - ".intercalate ([f.headline] ++ (if p.isEmpty then [] else ["path='" ++ p ++ "'"]) ++
      (if f.reason.isEmpty then [] else ["reason: " ++ f.reason]))
  | .line f n c => lineMessage f.message n c
  | .regex m | .overflow m | .incompatibleFlags m | .config m | .unsupported m | .encrypted m
  | .lzma m | .engine m | .recursion m => m
  | .archive f => f.message
  | .isDirectory p => "[Errno 21] Is a directory: " ++ quote p
  | .undecodable f => utf8Message f
  | .recordShape n m =>
    "Record has " ++ natText n ++ " names but " ++ natText m ++ " values"
  | .emptySeparator => "LTSV separators must be non-empty"
  | .extraPatterns p => "Preset '" ++ p ++ "' does not accept extra patterns"
  | .finalized => "ResultAggregator already finalized"
  | .value f => f.message
  | .configMissing p => "Config file not found: " ++ p
  | .groupSpan =>
    "The span of capturing group is wrong, please report a bug for the re module."

/-- The name of the exception class an error is raised as. -/
def Error.kindName : Error → String
  | .pattern .noCaptureGroup _ | .bytesPattern .noCaptureGroup _ => "NoCaptureGroupError"
  | .pattern .unnamedGroup _ | .bytesPattern .unnamedGroup _ => "UnnamedGroupError"
  | .pattern .. | .bytesPattern .. => "InvalidPatternError"
  | .noPatterns => "EmptyPatternSetError"
  | .expression (.malformed _) _ => "MalformedExpressionError"
  | .expression (.unknownField _) _ => "UnknownFieldError"
  | .expression (.unknownOperator _) _ => "UnknownOperatorError"
  | .expression (.invalidRegex ..) _ => "InvalidRegexError"
  | .expression .. => "InvalidNumberError"
  | .glob .. => "GlobPatternError"
  | .options _ => "OptionsValidationError"
  | .unknownPreset .. => "PresetNotFoundError"
  | .unknownFormat .. => "HandlerNotFoundError"
  | .source .. => "SourceValidationError"
  | .line (.fieldMissing ..) .. => "FieldMissingAtRuntimeError"
  | .line (.notNumeric ..) .. => "NotNumericError"
  | .line (.formatFailed _) .. | .line (.formatNotText _) .. => "HandlerError"
  | .line .. => "SourceReadError"
  | .regex _ => "error"
  | .overflow _ => "OverflowError"
  | .finalized => "RuntimeError"
  | .value (.wrongType _) => "TypeError"
  | .value (.noAttribute _) => "AttributeError"
  | .value (.overflow _) => "OverflowError"
  | .value (.missingKey _) => "KeyError"
  | .value (.outOfRange _) => "IndexError"
  | .configMissing _ => "FileNotFoundError"
  | .unsupported _ => "NotImplementedError"
  | .encrypted _ => "RuntimeError"
  | .archive _ => "BadZipFile"
  | .isDirectory _ => "IsADirectoryError"
  | .undecodable _ => "UnicodeDecodeError"
  | .lzma _ => "LZMAError"
  | .engine _ => "RuntimeError"
  | .groupSpan => "SystemError"
  | .recursion _ => "RecursionError"
  | _ => "ValueError"

/-- Whether an error is a value error: a plain one, or a text that is not UTF-8. -/
def Error.isValueError (e : Error) : Bool :=
  e.kindName == "ValueError" || e.kindName == "UnicodeDecodeError"

/-- Whether an error is an operating-system error: a missing file or a directory. -/
def Error.isSystemError : Error → Bool
  | .configMissing _ | .isDirectory _ => true
  | _ => false

/-- Whether an error belongs to the library's own family (configuration and line errors), as
opposed to errors of values, patterns and files. -/
def Error.isParserError : Error → Bool
  | .pattern .. | .bytesPattern .. | .noPatterns | .expression .. | .glob .. | .options _
  | .unknownPreset .. | .unknownFormat .. | .source .. | .line .. => true
  | _ => false

/-- The error of a search that gives no answer: the engine's, for a match it cannot report, and a
type error for a pattern of a byte string given a text. -/
def Regex.MatchFault.toError : MatchFault → Error
  | .wrongSpan => .groupSpan
  | .bytesOnText => .value (.wrongType "cannot use a bytes pattern on a string-like object")

end AccessLog

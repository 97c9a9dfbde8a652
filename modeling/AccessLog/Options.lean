import AccessLog.Format
import AccessLog.Tally

/-!
# Parse options

`Options` shape one parse: which fields to keep and in which order (`labels`), which filters a
record must pass, which line numbers to skip, whether written lines are marked, whether unmatched
lines are written too, whether the line number becomes the first field, and how a record is
written (`handler`).

Labels, filters and line numbers are kept as the values they were given, so that options can be
checked: `Options.problems` lists, in order, every line number that is not a positive integer
(booleans are not integers), every label that is not a non-empty text, every filter that is not a
text, and a handler that cannot be called.

A handler is a registered `Format`, a function supplied by the caller, or a value that cannot be
called at all. Calling it gives a `Reply`: text, a failure with its reason, or a value of another
kind.
-/

namespace AccessLog

open AccessLog.Text AccessLog.Number

/-- What a handler answers for one record. -/
inductive Reply where
  /-- The text of the record. -/
  | text (s : String)
  /-- The handler failed, for the reason given. -/
  | failed (reason : String)
  /-- The handler answered a value of another kind, named here. -/
  | other (kind : String)
  deriving Repr, DecidableEq, Inhabited

/-- How records are written. -/
inductive Handler where
  /-- A registered format. -/
  | format (f : Format)
  /-- A function of the names, the values, the line number, whether the line number is the first
  field, and whether the record is the first written. -/
  | custom (run : List String → List String → Int → Bool → Bool → Reply)
  /-- A value that is not a function. -/
  | notCallable (v : Value)
  deriving Inhabited

namespace Handler

/-- Whether the handler can be called. -/
def callable : Handler → Bool
  | .notCallable _ => false
  | _ => true

/-- Calls the handler. -/
def call (h : Handler) (names values : List String) (index : Int) (hasLineNumber isFirst : Bool) :
    Reply :=
  match h with
  | .format f => .text (f.render names values index hasLineNumber isFirst)
  | .custom run => run names values index hasLineNumber isFirst
  | .notCallable v => .failed ("'" ++ v.qualifiedKindName ++ "' object is not callable")

end Handler

/-- The options of one parse. -/
structure Options where
  /-- The fields to keep, in output order; none keeps every field. -/
  labels : List Value := []
  /-- The filter expressions a record must pass. -/
  filters : List Value := []
  /-- The line numbers to skip. -/
  skipLines : List Value := []
  /-- Whether written lines are marked as processed or unmatched. -/
  marked : Bool := false
  /-- Whether unmatched lines are written too. -/
  emitUnmatched : Bool := false
  /-- Whether the line number becomes the first field. -/
  lineNumber : Bool := false
  /-- How records are written. -/
  handler : Handler := .format .json
  deriving Inhabited

/-- The problem of a line number to skip, if any. -/
def skipLineProblem : Value → Option String
  | .int n =>
    if n < 1 then some ("skip line " ++ intText n ++ " must be a positive line number") else none
  | v => some ("skip line " ++ v.literal ++ " is not an integer")

/-- The problem of a label, if any. -/
def labelProblem : Value → Option String
  | .str s =>
    if s.isEmpty then some ("label " ++ quote s ++ " must be a non-empty string") else none
  | v => some ("label " ++ v.literal ++ " must be a non-empty string")

/-- The problem of a filter, if any. -/
def filterProblem : Value → Option String
  | .str _ => none
  | v => some ("filter " ++ v.literal ++ " must be a string")

/-- Every problem of the options, in order. -/
def Options.problems (o : Options) : List String :=
  o.skipLines.filterMap skipLineProblem ++ o.labels.filterMap labelProblem ++
    o.filters.filterMap filterProblem ++
    (if o.handler.callable then [] else ["line_handler must be callable"])

end AccessLog

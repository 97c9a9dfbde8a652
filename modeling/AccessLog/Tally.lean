import AccessLog.Error
import AccessLog.Json

/-!
# Tallies of lines

Every line read by a parse ends in exactly one `Status`: skipped, unmatched, excluded or matched.
A `Tally` counts the lines by status, keeps an `Audit` entry (line number, text and archive entry)
for each unmatched line, and records the source, the archive entries read, the time taken and
whether the parse was cancelled.

An `Aggregator` builds a tally step by step:

* `record` counts one line: the total and exactly one status counter grow by one, and an
  unmatched line's audit entry is kept;
* `merge` adds a whole tally of one archive entry: counters are summed, its audit entries are
  re-scoped to the entry, and the entry is listed;
* `markCancelled` marks the parse as cancelled;
* `finalize` sets the source and closes the aggregator, after which every step is an error.

A tally is *consistent* when its total is the sum of the four status counters.

## Main statements

* `Aggregator.record_consistent`: recording keeps a tally consistent.
* `Aggregator.merge_consistent`: merging a consistent tally keeps a tally consistent.
-/

namespace AccessLog

open AccessLog.Number

/-- What became of one line. -/
inductive Status where
  /-- Its number was listed to skip. -/
  | skipped
  /-- No decoding applied. -/
  | unmatched
  /-- A filter excluded its record. -/
  | excluded
  /-- Its record was written. -/
  | matched
  deriving Repr, DecidableEq, Inhabited

/-- The name of a status. -/
def Status.name : Status → String
  | .skipped => "skipped"
  | .unmatched => "unmatched"
  | .excluded => "excluded"
  | .matched => "matched"

/-- The status named by a value. -/
def Status.ofValue (v : Value) : Except Error Status :=
  let found := match v with
    | .str n => [Status.skipped, .unmatched, .excluded, .matched].find? (·.name == n)
    | _ => none
  match found with
  | some s => .ok s
  | none => .error (.value (.badContent (v.literal ++ " is not a valid LineStatus")))

/-- The audit entry of an unmatched line. -/
structure Audit where
  /-- The line number within its source or archive entry. -/
  lineNumber : Int
  /-- The text of the line. -/
  line : String
  /-- The archive entry the line came from, if any. -/
  entry : Option String := none
  deriving Repr, DecidableEq, Inhabited

/-- What became of one line, and what was written for it. -/
structure Outcome where
  /-- The status of the line. -/
  status : Status
  /-- The number of the line. -/
  lineNumber : Int
  /-- The text written for the line, if any. -/
  output : Option String := none
  /-- The audit entry, for an unmatched line. -/
  audit : Option Audit := none
  deriving Repr, DecidableEq, Inhabited

/-- A duration in seconds as it was given: whole, a float, or any other document value, which is
kept as it is and written back unchanged. -/
inductive Seconds where
  /-- A whole number of seconds. -/
  | whole (n : Int)
  /-- A float number of seconds. -/
  | real (x : Float)
  /-- A value that is not a number. -/
  | other (v : Json)
  deriving Inhabited

/-- The counters and audit trail of a parse. -/
structure Tally where
  /-- Lines read. -/
  total : Int := 0
  /-- Lines whose record was written. -/
  matched : Int := 0
  /-- Lines no decoding applied to. -/
  unmatched : Int := 0
  /-- Lines a filter excluded. -/
  excluded : Int := 0
  /-- Lines skipped by number. -/
  skipped : Int := 0
  /-- The name of the source. -/
  source : String := ""
  /-- The archive entries read, in order. -/
  entries : List String := []
  /-- The audit entries of unmatched lines, in order. -/
  audits : List Audit := []
  /-- The time the parse took. -/
  elapsed : Seconds := .real 0.0
  /-- Whether the parse was cancelled. -/
  cancelled : Bool := false
  deriving Inhabited

/-- Whether the total is the sum of the status counters. -/
def Tally.consistent (t : Tally) : Bool :=
  t.total == t.matched + t.unmatched + t.excluded + t.skipped

/-- Counts one line in a tally. -/
def Tally.count (t : Tally) (o : Outcome) : Tally :=
  let t := { t with total := t.total + 1 }
  match o.status with
  | .matched => { t with matched := t.matched + 1 }
  | .unmatched =>
    { t with unmatched := t.unmatched + 1, audits := t.audits ++ o.audit.toList }
  | .excluded => { t with excluded := t.excluded + 1 }
  | .skipped => { t with skipped := t.skipped + 1 }

/-- Adds the tally of an archive entry to a tally. -/
def Tally.absorb (t other : Tally) (entry : String) : Tally :=
  { t with
    total := t.total + other.total
    matched := t.matched + other.matched
    unmatched := t.unmatched + other.unmatched
    excluded := t.excluded + other.excluded
    skipped := t.skipped + other.skipped
    audits := t.audits ++ other.audits.map fun a => { a with entry := some entry }
    entries := t.entries ++ [entry] }

/-- A tally under construction. -/
structure Aggregator where
  /-- The tally so far. -/
  tally : Tally := {}
  /-- Whether the aggregator was finalized. -/
  closed : Bool := false
  deriving Inhabited

namespace Aggregator

/-- Fails once the aggregator is finalized. -/
def ensureOpen (a : Aggregator) : Except Error Unit :=
  if a.closed then .error .finalized else .ok ()

/-- Counts one line. -/
def record (a : Aggregator) (o : Outcome) : Except Error Aggregator := do
  a.ensureOpen
  pure { a with tally := a.tally.count o }

/-- Adds the tally of an archive entry. -/
def merge (a : Aggregator) (other : Tally) (entry : String) : Except Error Aggregator := do
  a.ensureOpen
  pure { a with tally := a.tally.absorb other entry }

/-- Marks the parse as cancelled. -/
def markCancelled (a : Aggregator) : Except Error Aggregator := do
  a.ensureOpen
  pure { a with tally := { a.tally with cancelled := true } }

/-- Closes the aggregator and gives its tally, with the source set. -/
def finalize (a : Aggregator) (source : String) : Except Error (Aggregator × Tally) := do
  a.ensureOpen
  let t := { a.tally with source := source }
  pure ({ tally := t, closed := true }, t)

theorem record_consistent (t : Tally) (o : Outcome) (h : t.consistent = true) :
    (t.count o).consistent = true := by
  simp only [Tally.consistent, beq_iff_eq] at *
  unfold Tally.count
  cases o.status <;> simp only <;> omega

theorem merge_consistent (t other : Tally) (e : String) (h : t.consistent = true)
    (h' : other.consistent = true) : (t.absorb other e).consistent = true := by
  simp only [Tally.consistent, Tally.absorb, beq_iff_eq] at *
  omega

end Aggregator

end AccessLog

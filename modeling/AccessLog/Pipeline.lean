import AccessLog.Decoder
import AccessLog.Filter
import AccessLog.Options

/-!
# The line pipeline

A `Pipeline` carries one parse through its lines. Each line gets the next number, counted from
one within the current source or archive entry, and then:

1. a line whose number is listed to skip is *skipped*;
2. a line the decoder refuses is *unmatched*: it is written, marked when lines are marked, only
   when unmatched lines are emitted, and it leaves an audit entry;
3. a record that does not pass the filters is *excluded*;
4. otherwise the record is projected onto the labels, given its line number as first field when
   asked, and written by the handler: the line is *matched*. When lines are marked, every line of
   the handler's text is marked.

A filter that cannot be applied and a handler that fails or answers something other than text
stop at this line with an error; the line keeps its number, so the next line gets the next one.
Starting an archive entry resets the count but not the knowledge that a record was already
written, which only the first record is told.

## Main statements

* `Pipeline.count_process`: every line, whatever becomes of it, advances the count by one.
* `Pipeline.count_startEntry`: starting an entry resets the count.
-/

namespace AccessLog

open AccessLog.Text AccessLog.Number

/-- The mark of a written record. -/
def processedMark : String := "[ PROCESSED ] "

/-- The mark of a written unmatched line. -/
def unmatchedMark : String := "[ UNMATCHED ] "

/-- Marks every line of a text. -/
def markLines (s : String) : String := "\n".intercalate ((pieces "\n" s).map (processedMark ++ ·))

/-- The projection of a record onto labels given as values: labels that are not text match no
field, and a label that cannot be hashed is an error. -/
def selectLabels (r : Record) (labels : List Value) : Except Error Record :=
  match labels.findSome? Value.unhashableKind with
  | some k => .error (.value (Value.unhashable k))
  | none => .ok (r.select (labels.filterMap fun | .str s => some s | _ => none))

/-- Whether the line number `n` is listed among the values to skip. -/
def listedToSkip (skip : List Value) (n : Nat) : Bool :=
  skip.any fun v => Value.keyEq v (.int n)

/-- The state of a parse between two lines. -/
structure Pipeline where
  /-- How lines are decoded. -/
  decoder : Decoder
  /-- The options of the parse. -/
  options : Options
  /-- The compiled filters. -/
  filters : List Filter
  /-- The number of the last line read in the current source or entry. -/
  count : Nat := 0
  /-- The archive entry being read, if any. -/
  entry : Option String := none
  /-- Whether no record was written yet. -/
  firstRecord : Bool := true
  deriving Inhabited

namespace Pipeline

/-- A pipeline for a decoder and options: the filters are compiled against the decoder's known
fields, and the line numbers to skip must all be hashable. -/
def create (d : Decoder) (o : Options) : Except Error Pipeline := do
  let fs ← if o.filters.isEmpty then pure [] else Filter.compileAll d.knownFields o.filters
  match o.skipLines.findSome? Value.unhashableKind with
  | some k => .error (.value (Value.unhashable k))
  | none => pure { decoder := d, options := o, filters := fs }

/-- Starts an archive entry: the count restarts. -/
def startEntry (p : Pipeline) (entry : Option String) : Pipeline :=
  { p with entry := entry, count := 0 }

theorem count_startEntry (p : Pipeline) (e : Option String) : (p.startEntry e).count = 0 := rfl

/-- The record handed to the handler: projected onto the labels, if any, and given the line
number `n` as first field when asked. -/
def shape (p : Pipeline) (r : Record) (n : Nat) : Except Error Record := do
  let r ← if p.options.labels.isEmpty then pure r else selectLabels r p.options.labels
  pure (if p.options.lineNumber then r.withLineNumber n else r)

/-- Writes a decoded record that passed the filters, as line `n` with text `line`. -/
def emit (p : Pipeline) (r : Record) (n : Nat) (line : String) : Pipeline × Except Error Outcome :=
  match p.shape r n with
  | .error e => (p, .error e)
  | .ok r =>
    match p.options.handler.call r.names r.values n p.options.lineNumber p.firstRecord with
    | .failed reason => (p, .error (.line (.formatFailed reason) (some n) line))
    | .other k => (p, .error (.line (.formatNotText k) (some n) line))
    | .text s =>
      let out := if p.options.marked then markLines s else s
      let record : Outcome := { status := .matched, lineNumber := n, output := some out }
      ({ p with firstRecord := false }, .ok record)

/-- Carries one line through the pipeline. -/
def process (p : Pipeline) (line : String) : Pipeline × Except Error Outcome :=
  let n := p.count + 1
  let p := { p with count := n }
  if listedToSkip p.options.skipLines n then (p, .ok { status := .skipped, lineNumber := n })
  else
    match p.decoder.decode line with
    | .error e => (p, .error e)
    | .ok none =>
      let output :=
        if p.options.emitUnmatched then
          some ((if p.options.marked then unmatchedMark else "") ++ line)
        else none
      (p, .ok { status := .unmatched, lineNumber := n, output := output,
                audit := some { lineNumber := n, line := line, entry := p.entry } })
    | .ok (some r) =>
      match Filter.allPass r (some (n : Int)) p.filters with
      | .error e => (p, .error e)
      | .ok false => (p, .ok { status := .excluded, lineNumber := n })
      | .ok true => p.emit r n line

theorem count_emit (p : Pipeline) (r : Record) (n : Nat) (line : String) :
    (p.emit r n line).1.count = p.count := by
  unfold emit
  split
  · rfl
  · split <;> rfl

theorem count_process (p : Pipeline) (line : String) :
    (p.process line).1.count = p.count + 1 := by
  unfold process
  simp only
  split
  · rfl
  · split
    · rfl
    · rfl
    · split
      · rfl
      · rfl
      · exact count_emit _ _ _ _

end Pipeline

end AccessLog

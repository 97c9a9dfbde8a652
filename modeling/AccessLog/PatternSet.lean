import AccessLog.Record
import AccessLog.Regex.Compile

/-!
# Pattern sets

A pattern decodes a line into fields through its named capture groups, so a pattern set accepts
only *field patterns*: patterns that compile, capture at least one group, and name every group.
The checks are made in that order, and the first that fails is the error.

A set is handed *candidates*: values, compiled when taken, or patterns compiled before, which
only go through the group checks. A text and a byte string compile (a byte string as the
characters of its bytes, into a pattern that can then search no text), and any other value is
refused as a pattern that does not compile. A refusal names the pattern: a byte string by its
bytes, unless it is longer than eighty bytes, when writing the message fails with a type error.

A `PatternSet` is an ordered list of field patterns; the order is the priority in which patterns
are tried. It changes in three ways:

* `add` appends one pattern, and leaves the set unchanged when the pattern is refused;
* `addAll` checks every pattern of a batch before appending any; when one is refused, the whole
  set is emptied, the patterns held before the batch included;
* `clear` empties the set.

The fields of a set are the group names of its patterns, each listed once, in the order they are
first met.

## Main statements

* `PatternSet.addAll_error`: a batch refused as patterns leaves an empty set.
* `PatternSet.size_add`: an accepted pattern adds one to the size.
-/

namespace AccessLog

open AccessLog.Regex

/-- A compiled pattern whose capture groups are all named, and which has at least one. -/
structure FieldPattern where
  /-- The compiled pattern. -/
  pattern : Pattern
  deriving Inhabited

namespace FieldPattern

/-- The pattern text. -/
def source (p : FieldPattern) : String := p.pattern.source

/-- The number of capture groups. -/
def groups (p : FieldPattern) : Nat := p.pattern.groups

/-- The group names in group order. -/
def names (p : FieldPattern) : List String := p.pattern.groupNames

end FieldPattern

/-- The error of a pattern that does not compile: malformed patterns are refused as patterns,
named by `shown`, while overflowing counts, contradictory flags and a compiled form the engine
refuses are errors of their own. Positions in the message count the characters of `text`. -/
def compileFault (text shown : String) : CompileError → Error
  | .malformed e => .pattern (.doesNotCompile (e.text text)) shown
  | .overflow m => .overflow m
  | .incompatible m => .incompatibleFlags m
  | .invalidCode => .engine (CompileError.invalidCode.text text)
  | .tooDeep => .recursion (CompileError.tooDeep.text text)

/-- The refusal of a compiled pattern by a group check, naming the pattern: a text as written, a
byte string by its bytes. A byte string of more than eighty bytes cannot be cut for the message,
which then fails on joining bytes to text. -/
def groupFault (p : Pattern) (f : PatternFault) : Error :=
  if !p.isBytes then .pattern f p.source
  else if p.source.length > 80 then .value (.wrongType "can't concat str to bytes")
  else .bytesPattern f (p.source.toList.map Char.toNat)

/-- Checks a compiled pattern: at least one group, every group named. -/
def checkGroups (p : Pattern) : Except Error FieldPattern :=
  if p.groups = 0 then .error (groupFault p .noCaptureGroup)
  else if p.names.length ≠ p.groups then .error (groupFault p .unnamedGroup)
  else .ok ⟨p⟩

/-- Compiles a pattern text into a field pattern. -/
def FieldPattern.compile (source : String) : Except Error FieldPattern :=
  match Pattern.compile source with
  | .error e => .error (compileFault source source e)
  | .ok p => checkGroups p

/-- The text a byte string is read as by the pattern reader: the character of each byte. -/
def bytesText (bs : List Nat) : String := String.ofList (bs.map Char.ofNat)

/-- Compiles a byte string into a field pattern; a refusal for not compiling names it by its
written form. -/
def FieldPattern.compileBytes (bs : List Nat) : Except Error FieldPattern :=
  match Pattern.compile (bytesText bs) {} true with
  | .error e => .error (compileFault (bytesText bs) (Value.bytesLiteral bs) e)
  | .ok p => checkGroups p

/-- The refusal of a value that cannot be compiled, named by its text: the engine first looks the
value up, which fails for a value that cannot be hashed. -/
def refuseValue (v : Value) : Error :=
  let detail := match v.unhashableKind with
    | some k => "unhashable type: '" ++ k ++ "'"
    | none => "first argument must be string or compiled pattern"
  .pattern (.doesNotCompile detail) v.text

/-- Compiles a pattern given as any value: text and byte strings can be compiled, and any other
value is refused. -/
def FieldPattern.ofValue : Value → Except Error FieldPattern
  | .str s => FieldPattern.compile s
  | .bytes bs => FieldPattern.compileBytes bs
  | v => .error (refuseValue v)

/-- A pattern compiled before it is handed over: what compiling its own text, under some flags,
gives. -/
structure CompiledPattern where
  /-- The compiled pattern. -/
  pattern : Pattern
  /-- The flags it was compiled under. -/
  flags : Flags
  /-- Compiling its text under those flags gives it. -/
  compiles : Pattern.compile pattern.source flags pattern.isBytes = .ok pattern

/-- What a pattern set is handed: a value to compile, or a pattern compiled before. -/
inductive Candidate where
  /-- A value, compiled when it is taken. -/
  | value (v : Value)
  /-- A compiled pattern, only checked for its groups. -/
  | compiled (p : CompiledPattern)

/-- Takes a candidate as a field pattern: a value is compiled, and a compiled pattern goes through
the group checks as it is. -/
def FieldPattern.ofCandidate : Candidate → Except Error FieldPattern
  | .value v => FieldPattern.ofValue v
  | .compiled p => checkGroups p.pattern

/-- Compiles every candidate of a batch, stopping at the first refused one. -/
def compileBatch : List Candidate → Except Error (List FieldPattern)
  | [] => .ok []
  | c :: rest => do
    let p ← FieldPattern.ofCandidate c
    let ps ← compileBatch rest
    pure (p :: ps)

/-- An ordered set of field patterns; the order is the priority. -/
structure PatternSet where
  /-- The patterns, highest priority first. -/
  patterns : List FieldPattern := []
  deriving Inhabited

namespace PatternSet

/-- The number of patterns. -/
def size (s : PatternSet) : Nat := s.patterns.length

/-- Whether the set holds no pattern. -/
def isEmpty (s : PatternSet) : Bool := s.patterns.isEmpty

/-- Appends one candidate as a pattern; a refused pattern leaves the set as it was. -/
def add (s : PatternSet) (c : Candidate) : Except Error PatternSet := do
  let p ← FieldPattern.ofCandidate c
  pure ⟨s.patterns ++ [p]⟩

/-- Whether an error refuses a candidate as a pattern, rather than failing in another way. -/
def refusesPattern : Error → Bool
  | .pattern .. | .bytesPattern .. => true
  | _ => false

/-- Appends a batch of candidates as patterns, checking all before appending any. The first set
is the set afterwards: a refused pattern empties it, any other failure leaves it as it was. -/
def addAll (s : PatternSet) (cs : List Candidate) : PatternSet × Option Error :=
  match compileBatch cs with
  | .ok ps => (⟨s.patterns ++ ps⟩, none)
  | .error e => (if refusesPattern e then ⟨[]⟩ else s, some e)

/-- The set of a batch of candidates; when the batch is refused, the set is empty. -/
def ofCandidates (cs : List Candidate) : PatternSet × Option Error :=
  if cs.isEmpty then (⟨[]⟩, none) else addAll ⟨[]⟩ cs

/-- The empty set. -/
def clear (_ : PatternSet) : PatternSet := ⟨[]⟩

/-- The names in `names` not yet in `seen`, appended to it in order. -/
def addNew (seen : List String) (names : List String) : List String :=
  names.foldl (fun acc n => if acc.contains n then acc else acc ++ [n]) seen

/-- The field names of the set: every group name, once, in first-seen order. -/
def fieldNames (s : PatternSet) : List String :=
  s.patterns.foldl (fun acc p => addNew acc p.names) []

/-- The short description of a set. -/
def describe (s : PatternSet) : String :=
  "PatternSet(" ++ toString s.size ++ " pattern(s))"

theorem addAll_error (s : PatternSet) (vs : List Candidate) (e : Error)
    (h : (s.addAll vs).2 = some e) (hr : refusesPattern e = true) :
    (s.addAll vs).1.patterns = [] := by
  unfold addAll at *
  split <;> simp_all

theorem size_add {s t : PatternSet} {v : Candidate} (h : s.add v = .ok t) :
    t.size = s.size + 1 := by
  unfold add at h
  cases hp : FieldPattern.ofCandidate v with
  | error e => rw [hp] at h; cases h
  | ok p =>
    simp [hp] at h
    cases h
    simp [size]

end PatternSet

end AccessLog

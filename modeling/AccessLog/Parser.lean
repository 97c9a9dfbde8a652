import AccessLog.Pipeline
import AccessLog.Preset
import AccessLog.Summary
import AccessLog.Archive.Fault

/-!
# Parsers

A `Parser` is a decoding scheme (a pattern set, or labeled lines) with options. Every parse first
*prepares* a pipeline, failing before any line is read, in this order, on: a problem of the
options, an empty pattern set, a filter that does not compile, a line number to skip that cannot
be hashed.

The prepared pipeline is then driven over a `LineFeed`: the lines a source yields, followed, when
the source breaks, by the reason it could not be read further. Before each line is read the
parse may be cancelled: `budget` is the number of times the parse may go on, and when it is used
up the parse stops, reports what it has, and is marked cancelled. Every line's outcome is
counted; the text written for it, if any, is written followed by a line feed. A line error, or a
source that breaks, stops the parse: what was written stays written, and no tally is reported.

## Main statements

* `feedLines_nil`: a feed with no line and no failure ends the parse, uncancelled.
-/

namespace AccessLog

open AccessLog.Text AccessLog.Archive

/-- How a parser decodes lines. -/
inductive Scheme where
  /-- By the first matching pattern of a set. -/
  | patterns (set : PatternSet)
  /-- By labels. -/
  | labeled
  deriving Inhabited

/-- A parser: a decoding scheme and the options of every parse. -/
structure Parser where
  /-- How lines are decoded. -/
  scheme : Scheme
  /-- The options of every parse. -/
  options : Options := {}
  deriving Inhabited

/-- What a line source yields: lines, then possibly the reason it could not be read further. -/
structure LineFeed where
  /-- The lines, without their terminators. -/
  lines : List String
  /-- Why the source broke after these lines, if it did. -/
  failure : Option ReadFault := none
  deriving Inhabited

/-- The lines of a text, split at line feeds, each without one final carriage return. -/
def textLines (text : String) : List String := (splitLines text).map dropReturn

/-- The feed of a text. -/
def LineFeed.ofText (text : String) : LineFeed := ⟨textLines text, none⟩

/-- The feed of items each read as one line, without its terminator. -/
def LineFeed.ofItems (items : List String) : LineFeed := ⟨items.map stripTerminator, none⟩

/-- A parse in progress: the pipeline, the tally so far and the text written. -/
structure Progress where
  /-- The pipeline. -/
  pipeline : Pipeline
  /-- The tally so far. -/
  tally : Tally := {}
  /-- The text written so far. -/
  written : String := ""
  deriving Inhabited

/-- Counts one outcome and writes its text. -/
def Progress.note (g : Progress) (p : Pipeline) (o : Outcome) : Progress :=
  { pipeline := p, tally := g.tally.count o,
    written := g.written ++ (o.output.map (· ++ "\n")).getD "" }

/-- Drives the pipeline over lines; `true` when the parse was cancelled. -/
def feedLines (budget : Option Nat) (failure : Option ReadFault) :
    Progress → List String → Progress × Except Error Bool
  | g, lines =>
    if budget == some 0 then (g, .ok true)
    else
      match lines with
      | [] =>
        match failure with
        | none => (g, .ok false)
        | some (.lzma m) => (g, .error (.lzma m))
        | some reason =>
          (g, .error (.line (.readFailed g.pipeline.entry reason) (some (g.pipeline.count + 1)) ""))
      | l :: rest =>
        let (p, r) := g.pipeline.process l
        match r with
        | .error e => ({ g with pipeline := p }, .error e)
        | .ok o => feedLines (budget.map (· - 1)) failure (g.note p o) rest

theorem feedLines_nil (g : Progress) :
    feedLines none none g [] = (g, .ok false) := by
  simp [feedLines]

/-- The last part of a path: the name of the file. -/
def baseName (path : String) : String :=
  match ((pieces "/" path).filter fun p => !p.isEmpty && p != ".").getLast? with
  | some n => n
  | none => ""

/-- A finished or stopped parse: the text written, and the tally or the error that stopped it. -/
structure Run where
  /-- The text written. -/
  written : String
  /-- The tally, or the error that stopped the parse. -/
  result : Except Error Tally
  deriving Inhabited

namespace Parser

/-- The decoder of a parser; a pattern set must not be empty. -/
def decoder (p : Parser) : Except Error Decoder :=
  match p.scheme with
  | .patterns s => if s.isEmpty then .error .noPatterns else .ok (.patterns s)
  | .labeled => .ok (.labeled labeledFieldSeparator labeledValueSeparator)

/-- Prepares the pipeline of one parse. -/
def prepare (p : Parser) : Except Error Pipeline := do
  let problems := p.options.problems
  if !problems.isEmpty then throw (.options problems)
  let d ← p.decoder
  Pipeline.create d p.options

/-- Drives a prepared pipeline over a feed, naming the tally after `source`. -/
def runFeed (pl : Pipeline) (feed : LineFeed) (source : String) (budget : Option Nat := none) :
    Run :=
  let (g, r) := feedLines budget feed.failure { pipeline := pl } feed.lines
  match r with
  | .error e => ⟨g.written, .error e⟩
  | .ok cancelled => ⟨g.written, .ok { g.tally with source := source, cancelled := cancelled }⟩

/-- Parses a feed, naming the tally after `source`. -/
def parseFeed (p : Parser) (feed : LineFeed) (source : String) (budget : Option Nat := none) :
    Run :=
  match p.prepare with
  | .error e => ⟨"", .error e⟩
  | .ok pl => runFeed pl feed source budget

/-- Parses a text. -/
def parseText (p : Parser) (text : String) : Run := p.parseFeed (.ofText text) ""

/-- Adds one pattern to a pattern parser. -/
def addPattern (p : Parser) (v : Candidate) : Except Error Parser :=
  match p.scheme with
  | .patterns s => do
    let s ← s.add v
    pure { p with scheme := .patterns s }
  | .labeled => .error (.value (.noAttribute "'LTSVParser' object has no attribute 'add_pattern'"))

/-- Adds a batch of patterns to a pattern parser; a refused batch empties its set. The parser is
given back with the error, since the refusal changes it. -/
def addPatterns (p : Parser) (vs : List Candidate) : Parser × Option Error :=
  match p.scheme with
  | .patterns s =>
    let (s, e) := s.addAll vs
    ({ p with scheme := .patterns s }, e)
  | .labeled =>
    (p, some (.value (.noAttribute "'LTSVParser' object has no attribute 'add_patterns'")))

/-- The parser of a preset. -/
def ofPreset (pr : Preset) (options : Options) : Parser :=
  if pr.usesPatterns then
    { scheme := .patterns (PatternSet.ofCandidates (pr.patterns.map (.value ∘ .str))).1,
      options := options }
  else { scheme := .labeled, options := options }

/-- A pattern parser of a batch of patterns. -/
def ofPatterns (vs : List Candidate) (options : Options) : Except Error Parser :=
  match PatternSet.ofCandidates vs with
  | (s, none) => .ok { scheme := .patterns s, options := options }
  | (_, some e) => .error e

end Parser

end AccessLog

import AccessLog.Value
import AccessLog.Text.Utf8

/-!
# YAML: marks, errors, tokens, events and nodes

Loading a YAML document goes through four stages, each handing the next a stream of its own
kind of item: characters are *scanned* into tokens, tokens are *parsed* into events, events are
*composed* into a node graph, and nodes are *constructed* into values. This module holds the
items of every stage and the errors they raise.

A `Mark` is a place in the text: the character index, and the line and column counted from
zero. Errors of the scanner, the parser, the composer and the constructor share one shape, a
`MarkedError`: an optional context with its mark, a problem with its mark, and an optional note.
It is shown line by line: the context, the context's mark (only when it differs from the
problem's), the problem, the problem's mark, the note. A mark is shown as
`  in "<name>", line L, column C`, counting from one.

A text holding a character outside the printable set (tab, line breaks, the printable ASCII
range, next line, and the non-surrogate planes from `0xa0` on, but not `0xfffe` and `0xffff`) is
refused, with the character's code and index, as soon as the scanner reads that far.

## Main statements

* `MarkedError.render_problem`: an error with only a problem shows just the problem.
-/

namespace AccessLog.Yaml

open AccessLog.Text AccessLog.Number

/-- A place in the text, counted from zero. -/
structure Mark where
  /-- The index of the character. -/
  index : Nat
  /-- The line. -/
  line : Nat
  /-- The column. -/
  column : Nat
  deriving Repr, DecidableEq, Inhabited

/-- How a mark is shown, in a source named `name`. -/
def Mark.describe (name : String) (m : Mark) : String :=
  "  in \"" ++ name ++ "\", line " ++ natText (m.line + 1) ++ ", column " ++ natText (m.column + 1)

/-- An error located in the text. -/
structure MarkedError where
  /-- What was being done. -/
  context : Option String := none
  /-- Where it started. -/
  contextMark : Option Mark := none
  /-- What went wrong. -/
  problem : Option String := none
  /-- Where it went wrong. -/
  problemMark : Option Mark := none
  /-- A further note. -/
  note : Option String := none
  deriving Repr, Inhabited

/-- Whether the context's mark is shown: when there is no problem mark to stand for it. -/
def MarkedError.showsContextMark (e : MarkedError) : Bool :=
  match e.contextMark, e.problem, e.problemMark with
  | none, _, _ => false
  | some _, none, _ => true
  | some _, some _, none => true
  | some c, some _, some p => c.line != p.line || c.column != p.column

/-- The text of a located error, in a source named `name`. -/
def MarkedError.render (name : String) (e : MarkedError) : String :=
  "\n".intercalate (e.context.toList ++
    (if e.showsContextMark then (e.contextMark.map (Mark.describe name)).toList else []) ++
    e.problem.toList ++ (e.problemMark.map (Mark.describe name)).toList ++ e.note.toList)

theorem MarkedError.render_problem (name p : String) :
    MarkedError.render name { problem := some p } = p := by
  simp [MarkedError.render, MarkedError.showsContextMark]

/-- A problem at a mark, while doing something that started at another mark. -/
def MarkedError.within (context : String) (start : Mark) (problem : String) (at_ : Mark) :
    MarkedError :=
  { context := some context, contextMark := some start, problem := some problem,
    problemMark := some at_ }

/-- A problem at a mark. -/
def MarkedError.at (problem : String) (at_ : Mark) : MarkedError :=
  { problem := some problem, problemMark := some at_ }

/-- Why a text is not a YAML document. -/
inductive YamlError where
  /-- A located error of scanning, parsing, composing or constructing. -/
  | marked (e : MarkedError)
  /-- A character outside the printable set, with its code and index. -/
  | unacceptable (code index : Nat)
  deriving Repr, Inhabited

/-- The hexadecimal digits of `n`, at least `width` of them. -/
def hexAtLeast (width n : Nat) : String :=
  let ds := Nat.toDigits 16 n
  String.ofList (List.replicate (width - ds.length) '0' ++ ds)

/-- The text of an error, in a source named `name`. -/
def YamlError.render (name : String) : YamlError → String
  | .marked e => e.render name
  | .unacceptable c i =>
    "unacceptable character #x" ++ hexAtLeast 4 c ++ ": special characters are not allowed\n" ++
      "  in \"" ++ name ++ "\", position " ++ natText i

/-- Why loading failed: the text is not YAML, or building a value failed on the way. -/
inductive LoadFault where
  /-- The text is not a YAML document. -/
  | yaml (e : YamlError)
  /-- A value could not be built. -/
  | value (f : ValueFault)
  /-- The bytes behind the text break before the loader has read what it needs. -/
  | undecodable (fault : Text.Utf8Fault)
  /-- The document nests deeper than the loader can follow. -/
  | tooDeep
  deriving Repr, Inhabited

/-- What a directive says. -/
inductive DirectiveValue where
  /-- A version. -/
  | version (major minor : Nat)
  /-- A tag handle and the tag it stands for. -/
  | tagHandle (handle uri : String)
  /-- An unknown directive. -/
  | other
  deriving Repr, DecidableEq, Inhabited

/-- The kind of a token, with what it carries. -/
inductive TokenKind where
  | streamStart
  | streamEnd
  | directive (name : String) (value : DirectiveValue)
  | documentStart
  | documentEnd
  | blockSequenceStart
  | blockMappingStart
  | blockEnd
  | flowSequenceStart
  | flowMappingStart
  | flowSequenceEnd
  | flowMappingEnd
  | key
  | value
  | blockEntry
  | flowEntry
  | alias (name : String)
  | anchor (name : String)
  | tag (handle : Option String) (suffix : String)
  /-- A scalar: its text, whether it is plain, and its quote or block style. -/
  | scalar (text : String) (plain : Bool) (style : Option Char)
  deriving Repr, DecidableEq, Inhabited

/-- The name of a token kind, as messages show it. -/
def TokenKind.id : TokenKind → String
  | .streamStart => "<stream start>"
  | .streamEnd => "<stream end>"
  | .directive .. => "<directive>"
  | .documentStart => "<document start>"
  | .documentEnd => "<document end>"
  | .blockSequenceStart => "<block sequence start>"
  | .blockMappingStart => "<block mapping start>"
  | .blockEnd => "<block end>"
  | .flowSequenceStart => "["
  | .flowMappingStart => "\x7b"
  | .flowSequenceEnd => "]"
  | .flowMappingEnd => "\x7d"
  | .key => "?"
  | .value => ":"
  | .blockEntry => "-"
  | .flowEntry => ","
  | .alias _ => "<alias>"
  | .anchor _ => "<anchor>"
  | .tag .. => "<tag>"
  | .scalar .. => "<scalar>"

/-- A token and where it starts and ends. -/
structure Token where
  /-- What the token is. -/
  kind : TokenKind
  /-- Where it starts. -/
  start : Mark
  /-- Where it ends. -/
  stop : Mark
  deriving Repr, Inhabited

/-- The kind of an event, with what it carries. -/
inductive EventKind where
  | streamStart
  | streamEnd
  | documentStart (explicit : Bool)
  | documentEnd (explicit : Bool)
  | alias (anchor : String)
  /-- A scalar: anchor, tag, whether its tag may be resolved as plain or as quoted, text. -/
  | scalar (anchor tag : Option String) (plainImplicit quotedImplicit : Bool) (text : String)
  | sequenceStart (anchor tag : Option String) (implicit : Bool)
  | sequenceEnd
  | mappingStart (anchor tag : Option String) (implicit : Bool)
  | mappingEnd
  deriving Repr, DecidableEq, Inhabited

/-- An event and where it starts and ends. -/
structure Event where
  /-- What the event is. -/
  kind : EventKind
  /-- Where it starts. -/
  start : Mark
  /-- Where it ends. -/
  stop : Mark
  deriving Repr, Inhabited

/-- The anchor an event carries, if any. -/
def EventKind.anchor? : EventKind → Option String
  | .scalar a .. | .sequenceStart a .. | .mappingStart a .. => a
  | _ => none

/-- What a node holds: a scalar's text, or a collection's items or pairs given as the places of
their nodes in the document's node array, so that an alias is one more reference to its node. -/
inductive NodeBody where
  | scalar (text : String)
  | sequence (items : List Nat)
  | mapping (pairs : List (Nat × Nat))
  deriving Repr, DecidableEq, Inhabited

/-- A node of a document: its tag, what it holds, and where it starts. -/
structure Node where
  /-- The resolved tag. -/
  tag : String
  /-- The scalar text, items or pairs. -/
  body : NodeBody
  /-- Where it starts. -/
  start : Mark
  deriving Repr, Inhabited

/-- The kind of a node, as messages show it. -/
def Node.id (n : Node) : String :=
  match n.body with
  | .scalar _ => "scalar"
  | .sequence _ => "sequence"
  | .mapping _ => "mapping"

/-- The namespace of the standard tags. -/
def standardTag (name : String) : String := "tag:yaml.org,2002:" ++ name

end AccessLog.Yaml

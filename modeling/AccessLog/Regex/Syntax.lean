/-!
# Patterns: syntax

A pattern is a tree of `Node`s. Every node that looks at characters carries the `Flags` in force
where it was written, so that scoped flags such as `(?i:...)` need no later pass:

* `ignoreCase`: characters compare by their simple lowercase, with case variants;
* `multiLine`: `^` and `$` also hold at line breaks;
* `dotAll`: `.` also matches a line feed;
* `ascii`: the classes `\d`, `\s`, `\w` and word boundaries know ASCII only.

A sequence of nodes is a `List Node`; an alternation holds several sequences. Capturing groups
are numbered from one in the order of their opening parentheses.

The *width* of a sequence is the least and greatest number of characters it can match, the
greatest being `none` when unbounded. A look-behind needs a sequence whose two widths agree.
-/

namespace AccessLog.Regex

/-- The flags in force at a point of a pattern. -/
structure Flags where
  /-- Compare characters regardless of case. -/
  ignoreCase : Bool := false
  /-- `^` and `$` hold at line breaks too. -/
  multiLine : Bool := false
  /-- `.` matches a line feed too. -/
  dotAll : Bool := false
  /-- Blanks and `#` comments in the pattern are ignored. -/
  verbose : Bool := false
  /-- Classes know ASCII only. -/
  ascii : Bool := false
  /-- Classes know all of Unicode (the default, written out). -/
  unicode : Bool := false
  /-- Classes follow the locale; only a byte string may take it. -/
  locale : Bool := false
  /-- The pattern is a template: it may hold no repetition. Only the whole pattern takes it. -/
  template : Bool := false
  deriving Repr, DecidableEq, Inhabited

/-- A named class of characters. -/
inductive Category where
  /-- Decimal digits, `\d`. -/
  | digit
  /-- Blanks, `\s`. -/
  | space
  /-- Word characters, `\w`. -/
  | word
  deriving Repr, DecidableEq, Inhabited

/-- One member of a bracketed class. -/
inductive ClassItem where
  /-- One character. -/
  | char (c : Char)
  /-- The characters from `lo` to `hi`, both included. -/
  | range (lo hi : Char)
  /-- A named class, or its complement when `neg`. -/
  | category (cat : Category) (neg : Bool)
  /-- No character at all: a surrogate code point, or a range of them, written as an escape. -/
  | nothing
  deriving Repr, DecidableEq, Inhabited

/-- Where an anchor holds. -/
inductive Anchor where
  /-- `^`: at the start (or after a line feed, under `multiLine`). -/
  | lineStart
  /-- `$`: at the end or before a final line feed (or before any line feed, under `multiLine`). -/
  | lineEnd
  /-- `\A`: at the start. -/
  | textStart
  /-- `\Z`: at the end. -/
  | textEnd
  /-- `\b`: between a word character and a non-word character. -/
  | boundary
  /-- `\B`: not at a word boundary. -/
  | nonBoundary
  deriving Repr, DecidableEq, Inhabited

/-- How a repetition chooses its count. -/
inductive Greed where
  /-- As many as possible first. -/
  | greedy
  /-- As few as possible first. -/
  | lazy
  /-- As many rounds as possible, each by the first way its body matches, never giving any back. -/
  | possessive
  deriving Repr, DecidableEq, Inhabited

/-- A pattern node. -/
inductive Node where
  /-- One character equal to `c`, or any other character when `neg`. -/
  | char (c : Char) (neg : Bool) (fl : Flags)
  /-- One character of the class, or outside it when `neg`. -/
  | cls (items : List ClassItem) (neg : Bool) (fl : Flags)
  /-- Any character (a line feed only under `dotAll`). -/
  | any (fl : Flags)
  /-- A zero-width anchor. -/
  | anchor (a : Anchor) (fl : Flags)
  /-- The first alternative that leads to a match. -/
  | alt (branches : List (List Node))
  /-- A capturing group. -/
  | group (index : Nat) (body : List Node)
  /-- A repetition of `body` between `min` and `max` times (`none`: no upper bound). -/
  | rep (min : Nat) (max : Option Nat) (greed : Greed) (body : List Node)
  /-- The text last captured by a group. -/
  | backref (index : Nat) (fl : Flags)
  /-- A look-ahead or, when `behind`, a look-behind; negative when `neg`. -/
  | look (behind : Bool) (neg : Bool) (body : List Node)
  /-- `yes` if the group has captured, else `no`. -/
  | cond (index : Nat) (yes no : List Node)
  /-- The first way `body` matches, never revisited. -/
  | atomic (body : List Node)
  deriving Repr, Inhabited

/-- The largest repetition count plus one: counts must stay below it, and widths are only
told apart below it. -/
def maxRepeat : Nat := 4294967295

/-- The least and greatest widths, `none` standing for unbounded. -/
structure Width where
  /-- The fewest characters matched. -/
  lo : Nat
  /-- The most characters matched, if bounded. -/
  hi : Option Nat
  deriving Repr, DecidableEq, Inhabited

namespace Width

/-- Widths of two things in sequence. -/
def add (a b : Width) : Width :=
  ⟨a.lo + b.lo, match a.hi, b.hi with | some x, some y => some (x + y) | _, _ => none⟩

/-- Widths of one thing or another. -/
def either (a b : Width) : Width :=
  ⟨min a.lo b.lo, match a.hi, b.hi with | some x, some y => some (max x y) | _, _ => none⟩

/-- Width of something repeated between `m` and `n` times. -/
def times (a : Width) (m : Nat) (n : Option Nat) : Width :=
  ⟨a.lo * m, match a.hi, n with
    | some 0, _ => some 0
    | _, some 0 => some 0
    | some x, some k => some (x * k)
    | _, _ => none⟩

end Width

/-- The widths of a group, by its index, as far as they are known. -/
abbrev GroupWidths := List (Nat × Width)

mutual
/-- The widths of a node. -/
def Node.width (gw : GroupWidths) : Node → Width
  | .char .. | .cls .. | .any _ => ⟨1, some 1⟩
  | .anchor .. | .look .. => ⟨0, some 0⟩
  | .alt [] => ⟨0, some 0⟩
  | .alt (b :: bs) => altWidth gw (seqWidth gw b) bs
  | .group _ body | .atomic body => seqWidth gw body
  | .rep m n _ body => (seqWidth gw body).times m n
  | .backref i _ => ((gw.find? (·.1 == i)).map (·.2)).getD ⟨0, some 0⟩
  | .cond _ yes no => (seqWidth gw yes).either (seqWidth gw no)

/-- The widths of a sequence. -/
def seqWidth (gw : GroupWidths) : List Node → Width
  | [] => ⟨0, some 0⟩
  | n :: rest => (n.width gw).add (seqWidth gw rest)

/-- The widths of an alternation, folding the remaining branches into `acc`. -/
def altWidth (gw : GroupWidths) (acc : Width) : List (List Node) → Width
  | [] => acc
  | b :: bs => altWidth gw (acc.either (seqWidth gw b)) bs
end

/-- Why a pattern is refused: a message and, usually, the position it points at. -/
structure SyntaxError where
  /-- What is wrong. -/
  msg : String
  /-- The position in the pattern, counted in characters. -/
  pos : Option Nat
  deriving Repr, DecidableEq, Inhabited

/-- Why a pattern cannot be compiled. -/
inductive CompileError where
  /-- The pattern is malformed. -/
  | malformed (e : SyntaxError)
  /-- A repetition count is too large. -/
  | overflow (msg : String)
  /-- The flags contradict each other. -/
  | incompatible (msg : String)
  /-- The pattern reads, but the engine refuses its compiled form: a look-behind reaches back
  `2 ^ 31` characters or more. -/
  | invalidCode
  /-- Groups nest deeper than the reader can follow. -/
  | tooDeep
  deriving Repr, DecidableEq, Inhabited

/-- The message of a syntax error: the position is added, and with it line and column when
the pattern spans several lines. -/
def SyntaxError.text (pattern : String) (e : SyntaxError) : String :=
  match e.pos with
  | none => e.msg
  | some p =>
    let base := e.msg ++ " at position " ++ toString p
    let cs := pattern.toList
    if cs.contains '\n' then
      let before := cs.take p
      let line := (before.filter (· == '\n')).length + 1
      let col := (before.reverse.takeWhile (· != '\n')).length + 1
      base ++ " (line " ++ toString line ++ ", column " ++ toString col ++ ")"
    else base

/-- The message of a compile error. -/
def CompileError.text (pattern : String) : CompileError → String
  | .malformed e => e.text pattern
  | .overflow m | .incompatible m => m
  | .invalidCode => "invalid SRE code"
  | .tooDeep => "maximum recursion depth exceeded while calling a Python object"

end AccessLog.Regex

import AccessLog.Yaml.Syntax
import AccessLog.Archive.Fault

/-!
# YAML: scanning characters into tokens

The scanner turns the characters of a text (ending in a `\x00` sentinel) into tokens, on demand:
the parser asks for the next token, and the scanner fetches tokens until it is sure the first
one is final. A token is not final while a *simple key* may still be waiting for it: a scalar,
alias, anchor, tag or flow collection that starts where a key may start is remembered, and when
a `:` follows on the same line (and within 1024 characters) a key token — and, in block context,
a block-mapping start — is inserted before it, in the queue, at the place it was remembered.

Indentation is tracked as a stack of columns; a block collection opens when a key or entry
starts right of the current column and closes, with a block-end token, when a line starts left
of it. In flow context (inside brackets) indentation does not count; the flow level is a plain
counter that an unmatched closing bracket takes below zero.

The token kinds, the characters that start them and the errors they raise are those of the
YAML 1.1 reference loader: directives (`%YAML`, `%TAG`), document markers, flow and block
indicators, anchors and aliases, tags (verbatim, with a handle, or primary), block scalars with
chomping and indentation indicators, single- and double-quoted scalars with escapes and line
folding, and plain scalars.

## Main statements

* `Scanner.advance_index`: moving past a character advances the index by one.
-/

namespace AccessLog.Yaml

open AccessLog.Text AccessLog.Number AccessLog.Archive

/-- Whether a character breaks a line. -/
def isBreak (c : Char) : Bool :=
  c == '\r' || c == '\n' || c == '\x85' || c == '\u2028' || c == '\u2029'

/-- A line break or the end of the text. -/
def isBreakOrEnd (c : Char) : Bool := c == '\x00' || isBreak c

/-- A blank (space or tab), a line break or the end of the text. -/
def isBlankOrEnd (c : Char) : Bool := c == ' ' || c == '\t' || isBreakOrEnd c

/-- A space, a line break or the end of the text (not a tab). -/
def isSpaceOrEnd (c : Char) : Bool := c == ' ' || isBreakOrEnd c

/-- An ASCII letter or digit. -/
def isAsciiAlnum (c : Char) : Bool :=
  ('0' ≤ c && c ≤ '9') || ('A' ≤ c && c ≤ 'Z') || ('a' ≤ c && c ≤ 'z')

/-- A character of an anchor, alias, directive or tag handle name. -/
def isWordChar (c : Char) : Bool := isAsciiAlnum c || c == '-' || c == '_'

/-- An ASCII hexadecimal digit. -/
def isHexChar (c : Char) : Bool :=
  ('0' ≤ c && c ≤ '9') || ('A' ≤ c && c ≤ 'F') || ('a' ≤ c && c ≤ 'f')

/-- The value of an ASCII hexadecimal digit. -/
def hexCharValue (c : Char) : Nat :=
  if c ≤ '9' then c.toNat - '0'.toNat
  else if c ≤ 'F' then c.toNat - 'A'.toNat + 10
  else c.toNat - 'a'.toNat + 10

/-- The value of hexadecimal digits. -/
def hexTextValue (s : String) : Nat := s.toList.foldl (fun n c => n * 16 + hexCharValue c) 0

/-- A character of a tag URI. -/
def isUriChar (c : Char) : Bool := isAsciiAlnum c || "-;/?:@&=+$,_.!~*'()[]%".toList.contains c

/-- A place where a mapping key may have started without a `?` indicator. -/
structure SimpleKey where
  /-- The number the key token would have. -/
  tokenNumber : Nat
  /-- Whether a `:` must follow: a block key at the indentation column. -/
  required : Bool
  /-- The index where it starts. -/
  index : Nat
  /-- The line where it starts. -/
  line : Nat
  /-- The column where it starts. -/
  column : Nat
  /-- Its mark. -/
  mark : Mark
  deriving Repr, Inhabited

/-- The state of the scanner. -/
structure Scanner where
  /-- The text, ending in `\x00`. -/
  text : Array Char
  /-- The index of the next character. -/
  pos : Nat := 0
  /-- Its line. -/
  line : Nat := 0
  /-- Its column. -/
  column : Nat := 0
  /-- Whether the stream end was reached. -/
  done : Bool := false
  /-- The flow nesting level. -/
  flowLevel : Int := 0
  /-- Tokens fetched and not yet taken. -/
  tokens : Array Token := #[]
  /-- The number of tokens taken. -/
  tokensTaken : Nat := 0
  /-- The current indentation column. -/
  indent : Int := -1
  /-- The enclosing indentation columns, innermost first. -/
  indents : List Int := []
  /-- Whether a simple key may start here. -/
  allowSimpleKey : Bool := true
  /-- The possible simple keys, by flow level, oldest first. -/
  possibleKeys : List (Int × SimpleKey) := []
  /-- How many characters the reads so far asked for. -/
  loaded : Nat := 0
  /-- What a read fails with when it needs characters past the end of the text, when the bytes
  behind the text break there. -/
  fault : Option Text.Utf8Fault := none
  deriving Inhabited

/-- The character `k` places ahead. -/
def Scanner.peekAt (s : Scanner) (k : Nat) : Char := s.text.getD (s.pos + k) '\x00'

/-- Moves past one character, counting lines and columns; a byte order mark takes no column. -/
def Scanner.advance (s : Scanner) : Scanner :=
  let ch := s.peekAt 0
  let pos := s.pos + 1
  if ch == '\n' || ch == '\x85' || ch == '\u2028' || ch == '\u2029' ||
      (ch == '\r' && s.text.getD pos '\x00' != '\n') then
    { s with pos := pos, line := s.line + 1, column := 0 }
  else if ch != '\uFEFF' then { s with pos := pos, column := s.column + 1 }
  else { s with pos := pos }

theorem Scanner.advance_index (s : Scanner) : s.advance.pos = s.pos + 1 := by
  simp only [Scanner.advance]
  split <;> (try split) <;> rfl

/-- The current mark. -/
def Scanner.mark (s : Scanner) : Mark := ⟨s.pos, s.line, s.column⟩

/-- Scanning: a state of the scanner, and loading faults. -/
abbrev ScanM := StateT Scanner (Except LoadFault)

/-- Fails with a located error. -/
def scanFail {α : Type} (e : MarkedError) : ScanM α := throw (.yaml (.marked e))

/-! ## Reading the text

The text is read as the scanner needs it, in reads of `readChunk` characters; the first two
reads are taken at once, before any scanning. A read that brings a character that is not
printable is refused, naming the first such character; a read that needs characters past the end
of a text whose bytes break there fails with the fault of the bytes. So a scanning error early in
a text is found before a character that is not printable, or a broken byte, further on. -/

/-- The number of characters one read of the text brings. -/
def readChunk : Nat := 4096

/-- Whether a character may appear in a YAML text. -/
def isPrintable (c : Char) : Bool :=
  let n := c.toNat
  n == 9 || n == 10 || n == 13 || (0x20 ≤ n && n ≤ 0x7e) || n == 0x85 ||
    (0xa0 ≤ n && n ≤ 0xd7ff) || (0xe000 ≤ n && n ≤ 0xfffd) || (0x10000 ≤ n && n ≤ 0x10ffff)

/-- The first character of the text from place `a` up to place `b` that is not printable, with
its place. -/
def Scanner.unprintableIn (s : Scanner) (a b : Nat) : Option (Nat × Char) :=
  (List.range (b - a)).findSome? fun d =>
    let c := s.text.getD (a + d) '\x00'
    if isPrintable c then none else some (a + d, c)

/-- Reads on until the first `n` characters are read, or the text is. -/
def demand (n : Nat) : ScanM Unit := do
  let s ← get
  let size := s.text.size - 1
  if n ≤ s.loaded || (s.fault.isNone && size ≤ s.loaded) then return
  let stop := s.loaded + (n - s.loaded + readChunk - 1) / readChunk * readChunk
  -- where the first read that needs characters past the end of a broken text starts
  let broken := s.loaded + (size - s.loaded) / readChunk * readChunk
  let checked := if s.fault.isSome then min stop broken else min stop size
  if let some (i, c) := s.unprintableIn s.loaded checked then
    throw (.yaml (.unacceptable c.toNat i))
  if let some f := s.fault then
    if broken < stop then throw (.undecodable f)
  set { s with loaded := stop }

/-- The character `k` places ahead. -/
def peekAt (k : Nat) : ScanM Char := do
  demand ((← get).pos + k + 1)
  return (← get).peekAt k

/-- The next character. -/
def peekChar : ScanM Char := peekAt 0

/-- The current mark. -/
def curMark : ScanM Mark := return (← get).mark

/-- Moves past `n` characters. -/
def forward (n : Nat := 1) : ScanM Unit := do
  demand ((← get).pos + n + 1)
  modify fun s => (List.range n).foldl (fun s _ => s.advance) s

/-- The next `n` characters. -/
def ahead (n : Nat) : ScanM String := do
  demand ((← get).pos + n)
  let s ← get
  return String.ofList ((List.range n).map s.peekAt)

/-- The number of characters satisfying `p`, from `k` places ahead. -/
def runLength (p : Char → Bool) (k : Nat := 0) : ScanM Nat := do
  let s ← get
  let mut n := 0
  for _ in [0:s.text.size + 1] do
    if p (s.peekAt (k + n)) then n := n + 1 else break
  demand (s.pos + k + n + 1)
  return n

/-- Moves past the characters satisfying `p` (which the end sentinel must not satisfy). -/
def skipWhile (p : Char → Bool) : ScanM Unit := do
  let n ← runLength p
  forward n

/-- Moves past the run satisfying `p` and gives it. -/
def takeWhile (p : Char → Bool) : ScanM String := do
  let n ← runLength p
  let t ← ahead n
  forward n
  return t

/-- Reads a line break, giving `\n` for a carriage return, line feed or next line, the
character itself for a line or paragraph separator, and nothing when there is no break. -/
def scanLineBreak : ScanM String := do
  let ch ← peekChar
  if ch == '\r' || ch == '\n' || ch == '\x85' then
    if ch == '\r' && (← peekAt 1) == '\n' then forward 2 else forward 1
    return "\n"
  else if ch == '\u2028' || ch == '\u2029' then
    forward
    return String.singleton ch
  else return ""

/-- Appends a token. -/
def pushToken (k : TokenKind) (a b : Mark) : ScanM Unit :=
  modify fun s => { s with tokens := s.tokens.push ⟨k, a, b⟩ }

/-- Inserts a token at place `i` of the queue. -/
def insertToken (i : Nat) (t : Token) : ScanM Unit :=
  modify fun s =>
    { s with tokens := s.tokens.extract 0 i ++ #[t] ++ s.tokens.extract i s.tokens.size }

/-! ## Simple keys and indentation -/

/-- The error of a required key that found no `:`. -/
def keyWithoutValue (k : SimpleKey) (at_ : Mark) : MarkedError :=
  .within "while scanning a simple key" k.mark "could not find expected ':'" at_

/-- Forgets the possible keys that can no longer be keys: on an earlier line, or more than 1024
characters back. A required one is an error. -/
def staleKeys : ScanM Unit := do
  let s ← get
  let mut kept := []
  for (lvl, k) in s.possibleKeys do
    if k.line != s.line || s.pos - k.index > 1024 then
      if k.required then scanFail (keyWithoutValue k s.mark)
    else kept := kept ++ [(lvl, k)]
  set { s with possibleKeys := kept }

/-- Forgets the possible key of the current flow level; a required one is an error. -/
def removeSimpleKey : ScanM Unit := do
  let s ← get
  match s.possibleKeys.lookup s.flowLevel with
  | some k =>
    if k.required then scanFail (keyWithoutValue k s.mark)
    set { s with possibleKeys := s.possibleKeys.filter (·.1 != s.flowLevel) }
  | none => pure ()

/-- Remembers that a simple key may start here. -/
def saveSimpleKey : ScanM Unit := do
  let s ← get
  let required := s.flowLevel == 0 && s.indent == (s.column : Int)
  if s.allowSimpleKey then
    removeSimpleKey
    let s ← get
    let key : SimpleKey :=
      ⟨s.tokensTaken + s.tokens.size, required, s.pos, s.line, s.column, s.mark⟩
    set { s with possibleKeys := s.possibleKeys ++ [(s.flowLevel, key)] }

/-- The smallest token number of a possible key. -/
def nextPossibleKey (s : Scanner) : Option Nat :=
  s.possibleKeys.foldl (fun m (_, k) =>
    match m with
    | some n => some (min n k.tokenNumber)
    | none => some k.tokenNumber) none

/-- Closes the block collections indented beyond `col` (not in flow context). -/
def unwindIndent (col : Int) : ScanM Unit := do
  if (← get).flowLevel != 0 then return
  for _ in [0:(← get).indents.length + 1] do
    let s ← get
    if s.indent > col then
      match s.indents with
      | i :: rest =>
        set { s with indent := i, indents := rest,
                     tokens := s.tokens.push ⟨.blockEnd, s.mark, s.mark⟩ }
      | [] => break
    else break

/-- Opens an indentation level at `col` if it is deeper; whether it did. -/
def addIndent (col : Int) : ScanM Bool := do
  let s ← get
  if s.indent < col then
    set { s with indents := s.indent :: s.indents, indent := col }
    return true
  else return false

/-! ## Directives, anchors and tags -/

/-- The error of a character found where another was expected. -/
def foundInstead {α : Type} (context : String) (start : Mark) (expected : String) (ch : Char) :
    ScanM α := do
  scanFail (.within context start (expected ++ ", but found " ++ quote (String.singleton ch))
    (← curMark))

/-- Reads a directive name. -/
def scanDirectiveName (start : Mark) : ScanM String := do
  let n ← runLength isWordChar
  if n == 0 then
    foundInstead "while scanning a directive" start "expected alphabetic or numeric character"
      (← peekAt n)
  let v ← ahead n
  forward n
  let ch ← peekChar
  if !isSpaceOrEnd ch then
    foundInstead "while scanning a directive" start "expected alphabetic or numeric character" ch
  return v

/-- Reads a number of a version directive. -/
def scanVersionNumber (start : Mark) : ScanM Nat := do
  let ch ← peekChar
  if !('0' ≤ ch && ch ≤ '9') then
    foundInstead "while scanning a directive" start "expected a digit" ch
  let t ← takeWhile fun c => '0' ≤ c && c ≤ '9'
  return t.toList.foldl (fun n c => n * 10 + (c.toNat - '0'.toNat)) 0

/-- Reads the value of a version directive. -/
def scanVersionValue (start : Mark) : ScanM DirectiveValue := do
  skipWhile (· == ' ')
  let major ← scanVersionNumber start
  let ch ← peekChar
  if ch != '.' then foundInstead "while scanning a directive" start "expected a digit or '.'" ch
  forward
  let minor ← scanVersionNumber start
  let ch ← peekChar
  if !isSpaceOrEnd ch then
    foundInstead "while scanning a directive" start "expected a digit or ' '" ch
  return .version major minor

/-- Reads URI escapes `%hh...`, decoded as UTF-8. -/
def scanUriEscapes (name : String) (start : Mark) : ScanM String := do
  let m ← curMark
  let mut codes : List UInt8 := []
  for _ in [0:(← get).text.size + 1] do
    if (← peekChar) != '%' then break
    forward
    for k in [0:2] do
      let c ← peekAt k
      if !isHexChar c then
        foundInstead ("while scanning a " ++ name) start
          "expected URI escape sequence of 2 hexadecimal numbers" c
    codes := codes ++ [(hexTextValue (← ahead 2)).toUInt8]
    forward 2
  match decodeUtf8 codes true with
  | .ok (cs, _) => return String.ofList cs
  | .error f => scanFail (.within ("while scanning a " ++ name) start (utf8Message f) m)

/-- Reads a tag URI. -/
def scanTagUri (name : String) (start : Mark) : ScanM String := do
  let mut chunks := ""
  let mut pieces := false
  let mut n := 0
  for _ in [0:(← get).text.size + 1] do
    let ch ← peekAt n
    if !isUriChar ch then break
    if ch == '%' then
      chunks := chunks ++ (← ahead n)
      forward n
      n := 0
      chunks := chunks ++ (← scanUriEscapes name start)
      pieces := true
    else n := n + 1
  if n > 0 then
    chunks := chunks ++ (← ahead n)
    forward n
    pieces := true
  if !pieces then foundInstead ("while parsing a " ++ name) start "expected URI" (← peekChar)
  return chunks

/-- Reads a tag handle `!`, `!!` or `!name!`. -/
def scanTagHandle (name : String) (start : Mark) : ScanM String := do
  let ch ← peekChar
  if ch != '!' then foundInstead ("while scanning a " ++ name) start "expected '!'" ch
  let mut n := 1
  let ch ← peekAt 1
  if ch != ' ' then
    n := 1 + (← runLength isWordChar 1)
    let c ← peekAt n
    if c != '!' then
      forward n
      foundInstead ("while scanning a " ++ name) start "expected '!'" c
    n := n + 1
  let v ← ahead n
  forward n
  return v

/-- Reads the value of a tag directive. -/
def scanTagDirectiveValue (start : Mark) : ScanM DirectiveValue := do
  skipWhile (· == ' ')
  let handle ← scanTagHandle "directive" start
  let ch ← peekChar
  if ch != ' ' then foundInstead "while scanning a directive" start "expected ' '" ch
  skipWhile (· == ' ')
  let uri ← scanTagUri "directive" start
  let ch ← peekChar
  if !isSpaceOrEnd ch then foundInstead "while scanning a directive" start "expected ' '" ch
  return .tagHandle handle uri

/-- Reads what may follow a directive: blanks and a comment, then a line break. -/
def scanDirectiveIgnoredLine (start : Mark) : ScanM Unit := do
  skipWhile (· == ' ')
  if (← peekChar) == '#' then skipWhile (!isBreakOrEnd ·)
  let ch ← peekChar
  if !isBreakOrEnd ch then
    foundInstead "while scanning a directive" start "expected a comment or a line break" ch
  discard scanLineBreak

/-- Reads a directive. -/
def scanDirective : ScanM Token := do
  let start ← curMark
  forward
  let name ← scanDirectiveName start
  let (value, stop) ←
    if name == "YAML" then do
      let v ← scanVersionValue start
      pure (v, ← curMark)
    else if name == "TAG" then do
      let v ← scanTagDirectiveValue start
      pure (v, ← curMark)
    else do
      let m ← curMark
      skipWhile (!isBreakOrEnd ·)
      pure (DirectiveValue.other, m)
  scanDirectiveIgnoredLine start
  return ⟨.directive name value, start, stop⟩

/-- Reads an alias (`*name`) or an anchor (`&name`). -/
def scanAnchor (isAlias : Bool) : ScanM Token := do
  let start ← curMark
  let what := if isAlias then "while scanning an alias" else "while scanning an anchor"
  forward
  let n ← runLength isWordChar
  if n == 0 then foundInstead what start "expected alphabetic or numeric character" (← peekChar)
  let v ← ahead n
  forward n
  let ch ← peekChar
  if !(isBlankOrEnd ch || "?:,]\x7d%@`".toList.contains ch) then
    foundInstead what start "expected alphabetic or numeric character" ch
  let stop ← curMark
  return ⟨if isAlias then .alias v else .anchor v, start, stop⟩

/-- Reads a tag: verbatim `!<uri>`, the non-specific `!`, or a handle and a suffix. -/
def scanTag : ScanM Token := do
  let start ← curMark
  let ch ← peekAt 1
  let (handle, suffix) ←
    if ch == '<' then do
      forward 2
      let suffix ← scanTagUri "tag" start
      let c ← peekChar
      if c != '>' then foundInstead "while parsing a tag" start "expected '>'" c
      forward
      pure (none, suffix)
    else if isBlankOrEnd ch then do
      forward
      pure (none, "!")
    else do
      let n ← runLength (fun c => !isSpaceOrEnd c && c != '!') 1
      let handle ←
        if !isSpaceOrEnd (← peekAt (n + 1)) then scanTagHandle "tag" start
        else do
          forward
          pure "!"
      let suffix ← scanTagUri "tag" start
      pure (some handle, suffix)
  let c ← peekChar
  if !isSpaceOrEnd c then foundInstead "while scanning a tag" start "expected ' '" c
  return ⟨.tag handle suffix, start, ← curMark⟩

/-! ## Block scalars -/

/-- Reads the chomping and indentation indicators of a block scalar. -/
def scanBlockIndicators (start : Mark) : ScanM (Option Bool × Option Nat) := do
  let what := "while scanning a block scalar"
  let zeroIndent := "expected indentation indicator in the range 1-9, but found 0"
  let isDigit := fun (c : Char) => '0' ≤ c && c ≤ '9'
  let mut chomping : Option Bool := none
  let mut increment : Option Nat := none
  let ch ← peekChar
  if ch == '+' || ch == '-' then
    chomping := some (ch == '+')
    forward
    let c ← peekChar
    if isDigit c then
      if c == '0' then scanFail (.within what start zeroIndent (← curMark))
      increment := some (c.toNat - '0'.toNat)
      forward
  else if isDigit ch then
    if ch == '0' then scanFail (.within what start zeroIndent (← curMark))
    increment := some (ch.toNat - '0'.toNat)
    forward
    let c ← peekChar
    if c == '+' || c == '-' then
      chomping := some (c == '+')
      forward
  let c ← peekChar
  if !isSpaceOrEnd c then foundInstead what start "expected chomping or indentation indicators" c
  return (chomping, increment)

/-- Reads what may follow the indicators of a block scalar: blanks and a comment, then a line
break. -/
def scanBlockIgnoredLine (start : Mark) : ScanM Unit := do
  skipWhile (· == ' ')
  if (← peekChar) == '#' then skipWhile (!isBreakOrEnd ·)
  let ch ← peekChar
  if !isBreakOrEnd ch then
    foundInstead "while scanning a block scalar" start "expected a comment or a line break" ch
  discard scanLineBreak

/-- Reads the leading empty lines of a block scalar without an indentation indicator: the line
breaks, the deepest column reached, and the mark after the last break. -/
def scanBlockIndentation : ScanM (List String × Nat × Mark) := do
  let mut chunks : List String := []
  let mut deepest := 0
  let mut stop ← curMark
  for _ in [0:(← get).text.size + 1] do
    let ch ← peekChar
    if ch == ' ' then
      forward
      deepest := max deepest (← get).column
    else if isBreak ch then
      chunks := chunks ++ [← scanLineBreak]
      stop ← curMark
    else break
  return (chunks, deepest, stop)

/-- Reads line breaks and the indentation up to `indent` after them. -/
def scanBlockBreaks (indent : Int) : ScanM (List String × Mark) := do
  let mut chunks : List String := []
  let mut stop ← curMark
  for _ in [0:(← get).text.size + 1] do
    let s ← get
    if (s.column : Int) < indent && s.peekAt 0 == ' ' then forward else break
  for _ in [0:(← get).text.size + 1] do
    if !isBreak (← peekChar) then break
    chunks := chunks ++ [← scanLineBreak]
    stop ← curMark
    for _ in [0:(← get).text.size + 1] do
      let s ← get
      if (s.column : Int) < indent && s.peekAt 0 == ' ' then forward else break
  return (chunks, stop)

/-- Reads a literal (`|`) or folded (`>`) block scalar. -/
def scanBlockScalar (style : Char) : ScanM Token := do
  let folded := style == '>'
  let start ← curMark
  forward
  let (chomping, increment) ← scanBlockIndicators start
  scanBlockIgnoredLine start
  let minIndent : Int := max ((← get).indent + 1) 1
  let (breaks0, indent, stop0) ←
    match increment with
    | none => do
      let (b, deepest, m) ← scanBlockIndentation
      pure (b, max minIndent (deepest : Int), m)
    | some inc => do
      let ind := minIndent + inc - 1
      let (b, m) ← scanBlockBreaks ind
      pure (b, ind, m)
  let mut breaks := breaks0
  let mut stop := stop0
  let mut chunks : List String := []
  let mut lineBreak := ""
  for _ in [0:(← get).text.size + 1] do
    let s ← get
    if !((s.column : Int) == indent && s.peekAt 0 != '\x00') then break
    chunks := chunks ++ breaks
    let leadingNonSpace := !(s.peekAt 0 == ' ' || s.peekAt 0 == '\t')
    chunks := chunks ++ [← takeWhile (!isBreakOrEnd ·)]
    lineBreak ← scanLineBreak
    let (b, m) ← scanBlockBreaks indent
    breaks := b
    stop := m
    let s ← get
    if (s.column : Int) == indent && s.peekAt 0 != '\x00' then
      let nextBlank := s.peekAt 0 == ' ' || s.peekAt 0 == '\t'
      if folded && lineBreak == "\n" && leadingNonSpace && !nextBlank then
        if breaks.isEmpty then chunks := chunks ++ [" "]
      else chunks := chunks ++ [lineBreak]
    else break
  if chomping != some false then chunks := chunks ++ [lineBreak]
  if chomping == some true then chunks := chunks ++ breaks
  return ⟨.scalar (String.join chunks) false (some style), start, stop⟩

/-! ## Quoted scalars -/

/-- The character a one-character escape stands for. -/
def escapeReplacement (c : Char) : Option Char :=
  match c with
  | '0' => some '\x00' | 'a' => some '\x07' | 'b' => some '\x08' | 't' => some '\t'
  | '\t' => some '\t' | 'n' => some '\n' | 'v' => some '\x0b' | 'f' => some '\x0c'
  | 'r' => some '\r' | 'e' => some '\x1b' | ' ' => some ' ' | '"' => some '"'
  | '\\' => some '\\' | '/' => some '/' | 'N' => some '\x85' | '_' => some '\xa0'
  | 'L' => some '\u2028' | 'P' => some '\u2029'
  | _ => none

/-- The number of hexadecimal digits of a code escape. -/
def escapeCodeLength (c : Char) : Option Nat :=
  match c with
  | 'x' => some 2 | 'u' => some 4 | 'U' => some 8 | _ => none

/-- The character of a code; codes past the last character are refused (those beyond a 32-bit
signed integer as an overflow), surrogates stand for the replacement character. -/
def codeChar (code : Nat) : ScanM Char :=
  if code ≥ Nat.pow 2 31 then
    throw (.value (.overflow "Python int too large to convert to C int"))
  else if code > 0x10ffff then throw (.value (.badContent "chr() arg not in range(0x110000)"))
  else if 0xd800 ≤ code && code < 0xe000 then return '\uFFFD'
  else return Char.ofNat code

/-- Reads the line breaks inside a quoted scalar; a document marker there is an error. -/
def scanQuotedBreaks (start : Mark) : ScanM String := do
  let mut chunks := ""
  for _ in [0:(← get).text.size + 1] do
    let p ← ahead 3
    if (p == "---" || p == "...") && isBlankOrEnd (← peekAt 3) then
      scanFail (.within "while scanning a quoted scalar" start "found unexpected document separator"
        (← curMark))
    skipWhile fun c => c == ' ' || c == '\t'
    if isBreak (← peekChar) then chunks := chunks ++ (← scanLineBreak) else break
  return chunks

/-- Reads the characters of a quoted scalar up to a blank, a break or its end quote. -/
def scanQuotedNonSpaces (double : Bool) (start : Mark) : ScanM String := do
  let what := "while scanning a double-quoted scalar"
  let mut chunks := ""
  for _ in [0:(← get).text.size + 1] do
    let plainChar := fun c => !(c == '\'' || c == '"' || c == '\\' || isBlankOrEnd c)
    chunks := chunks ++ (← takeWhile plainChar)
    let ch ← peekChar
    if !double && ch == '\'' && (← peekAt 1) == '\'' then
      chunks := chunks.push '\''
      forward 2
    else if (double && ch == '\'') || (!double && (ch == '"' || ch == '\\')) then
      chunks := chunks.push ch
      forward
    else if double && ch == '\\' then
      forward
      let c ← peekChar
      match escapeReplacement c, escapeCodeLength c with
      | some r, _ =>
        chunks := chunks.push r
        forward
      | none, some n =>
        forward
        for k in [0:n] do
          let d ← peekAt k
          if !isHexChar d then
            scanFail (.within what start ("expected escape sequence of " ++ natText n ++
              " hexadecimal numbers, but found " ++ quote (String.singleton d)) (← curMark))
        chunks := chunks.push (← codeChar (hexTextValue (← ahead n)))
        forward n
      | none, none =>
        if isBreak c then
          discard scanLineBreak
          chunks := chunks ++ (← scanQuotedBreaks start)
        else
          scanFail (.within what start ("found unknown escape character " ++
            quote (String.singleton c)) (← curMark))
    else break
  return chunks

/-- Reads the blanks and line breaks inside a quoted scalar, folding a single line break into a
blank. -/
def scanQuotedSpaces (start : Mark) : ScanM String := do
  let blanks ← takeWhile fun c => c == ' ' || c == '\t'
  let ch ← peekChar
  if ch == '\x00' then
    scanFail (.within "while scanning a quoted scalar" start "found unexpected end of stream"
      (← curMark))
  else if isBreak ch then
    let lineBreak ← scanLineBreak
    let breaks ← scanQuotedBreaks start
    let first := if lineBreak != "\n" then lineBreak else if breaks.isEmpty then " " else ""
    return first ++ breaks
  else return blanks

/-- Reads a single- or double-quoted scalar. -/
def scanFlowScalar (style : Char) : ScanM Token := do
  let double := style == '"'
  let start ← curMark
  let q ← peekChar
  forward
  let mut chunks ← scanQuotedNonSpaces double start
  for _ in [0:(← get).text.size + 1] do
    if (← peekChar) == q then break
    chunks := chunks ++ (← scanQuotedSpaces start)
    chunks := chunks ++ (← scanQuotedNonSpaces double start)
  forward
  return ⟨.scalar chunks false (some style), start, ← curMark⟩

/-! ## Plain scalars -/

/-- Reads the blanks and line breaks after a chunk of a plain scalar: what they fold into, or
nothing when a document marker follows (which ends the scalar). -/
def scanPlainSpaces : ScanM String := do
  let blanks ← takeWhile (· == ' ')
  let ch ← peekChar
  if isBreak ch then
    let lineBreak ← scanLineBreak
    modify fun s => { s with allowSimpleKey := true }
    let marker : ScanM Bool := do
      let p ← ahead 3
      return (p == "---" || p == "...") && isBlankOrEnd (← peekAt 3)
    if ← marker then return ""
    let mut breaks := ""
    for _ in [0:(← get).text.size + 1] do
      let c ← peekChar
      if c == ' ' then forward
      else if isBreak c then
        breaks := breaks ++ (← scanLineBreak)
        if ← marker then return ""
      else break
    let first := if lineBreak != "\n" then lineBreak else if breaks.isEmpty then " " else ""
    return first ++ breaks
  else return blanks

/-- Reads a plain scalar. -/
def scanPlain : ScanM Token := do
  let start ← curMark
  let mut stop := start
  let indent := (← get).indent + 1
  let mut chunks := ""
  let mut spaces := ""
  for _ in [0:(← get).text.size + 1] do
    if (← peekChar) == '#' then break
    let s ← get
    let flow := s.flowLevel != 0
    let ends := fun (k : Nat) =>
      let c := s.peekAt k
      isBlankOrEnd c ||
        (c == ':' && (isBlankOrEnd (s.peekAt (k + 1)) ||
          (flow && ",[]\x7b\x7d".toList.contains (s.peekAt (k + 1))))) ||
        (flow && ",?[]\x7b\x7d".toList.contains c)
    let n := ((List.range (s.text.size + 1)).find? ends).getD 0
    if n == 0 then break
    modify fun s => { s with allowSimpleKey := false }
    chunks := chunks ++ spaces ++ (← ahead n)
    forward n
    stop ← curMark
    spaces ← scanPlainSpaces
    let s ← get
    if spaces.isEmpty || s.peekAt 0 == '#' || (s.flowLevel == 0 && (s.column : Int) < indent) then
      break
  return ⟨.scalar chunks true none, start, stop⟩

/-! ## Fetching tokens -/

/-- Moves to the next token: past blanks, comments and line breaks (a line break allowing a
simple key in block context), and past a byte order mark at the very start. -/
def scanToNextToken : ScanM Unit := do
  let s ← get
  if s.pos == 0 && s.peekAt 0 == '\uFEFF' then forward
  for _ in [0:(← get).text.size + 1] do
    skipWhile (· == ' ')
    if (← peekChar) == '#' then skipWhile (!isBreakOrEnd ·)
    if (← scanLineBreak).isEmpty then break
    if (← get).flowLevel == 0 then modify fun s => { s with allowSimpleKey := true }

/-- Ends the stream. -/
def fetchStreamEnd : ScanM Unit := do
  unwindIndent (-1)
  removeSimpleKey
  modify fun s => { s with allowSimpleKey := false, possibleKeys := [] }
  let m ← curMark
  pushToken .streamEnd m m
  modify fun s => { s with done := true }

/-- Fetches a directive. -/
def fetchDirective : ScanM Unit := do
  unwindIndent (-1)
  removeSimpleKey
  modify fun s => { s with allowSimpleKey := false }
  let t ← scanDirective
  modify fun s => { s with tokens := s.tokens.push t }

/-- Fetches a document start or end marker. -/
def fetchDocumentIndicator (k : TokenKind) : ScanM Unit := do
  unwindIndent (-1)
  removeSimpleKey
  modify fun s => { s with allowSimpleKey := false }
  let a ← curMark
  forward 3
  pushToken k a (← curMark)

/-- Fetches an opening bracket. -/
def fetchFlowCollectionStart (k : TokenKind) : ScanM Unit := do
  saveSimpleKey
  modify fun s => { s with flowLevel := s.flowLevel + 1, allowSimpleKey := true }
  let a ← curMark
  forward
  pushToken k a (← curMark)

/-- Fetches a closing bracket. -/
def fetchFlowCollectionEnd (k : TokenKind) : ScanM Unit := do
  removeSimpleKey
  modify fun s => { s with flowLevel := s.flowLevel - 1, allowSimpleKey := false }
  let a ← curMark
  forward
  pushToken k a (← curMark)

/-- Fetches a flow entry separator. -/
def fetchFlowEntry : ScanM Unit := do
  modify fun s => { s with allowSimpleKey := true }
  removeSimpleKey
  let a ← curMark
  forward
  pushToken .flowEntry a (← curMark)

/-- Fetches a block sequence entry, opening the sequence if it is indented deeper. -/
def fetchBlockEntry : ScanM Unit := do
  let s ← get
  if s.flowLevel == 0 then
    if !s.allowSimpleKey then scanFail (.at "sequence entries are not allowed here" s.mark)
    if ← addIndent s.column then
      let m ← curMark
      pushToken .blockSequenceStart m m
  modify fun s => { s with allowSimpleKey := true }
  removeSimpleKey
  let a ← curMark
  forward
  pushToken .blockEntry a (← curMark)

/-- Fetches an explicit key indicator. -/
def fetchKey : ScanM Unit := do
  let s ← get
  if s.flowLevel == 0 then
    if !s.allowSimpleKey then scanFail (.at "mapping keys are not allowed here" s.mark)
    if ← addIndent s.column then
      let m ← curMark
      pushToken .blockMappingStart m m
  modify fun s => { s with allowSimpleKey := s.flowLevel == 0 }
  removeSimpleKey
  let a ← curMark
  forward
  pushToken .key a (← curMark)

/-- Fetches a value indicator: the possible simple key of this level, if any, becomes a key. -/
def fetchValue : ScanM Unit := do
  let s ← get
  match s.possibleKeys.lookup s.flowLevel with
  | some k =>
    set { s with possibleKeys := s.possibleKeys.filter (·.1 != s.flowLevel) }
    insertToken (k.tokenNumber - s.tokensTaken) ⟨.key, k.mark, k.mark⟩
    if s.flowLevel == 0 then
      if ← addIndent k.column then
        insertToken (k.tokenNumber - s.tokensTaken) ⟨.blockMappingStart, k.mark, k.mark⟩
    modify fun s => { s with allowSimpleKey := false }
  | none =>
    if s.flowLevel == 0 then
      if !s.allowSimpleKey then scanFail (.at "mapping values are not allowed here" s.mark)
      if ← addIndent s.column then
        let m ← curMark
        pushToken .blockMappingStart m m
    modify fun s => { s with allowSimpleKey := s.flowLevel == 0 }
    removeSimpleKey
  let a ← curMark
  forward
  pushToken .value a (← curMark)

/-- Fetches a token that may be a simple key and forbids another one right after. -/
def fetchKeyable (scan : ScanM Token) : ScanM Unit := do
  saveSimpleKey
  modify fun s => { s with allowSimpleKey := false }
  let t ← scan
  modify fun s => { s with tokens := s.tokens.push t }

/-- Fetches a block scalar. -/
def fetchBlockScalar (style : Char) : ScanM Unit := do
  modify fun s => { s with allowSimpleKey := true }
  removeSimpleKey
  let t ← scanBlockScalar style
  modify fun s => { s with tokens := s.tokens.push t }

/-- Whether a plain scalar starts here. -/
def checkPlain (s : Scanner) : Bool :=
  let ch := s.peekAt 0
  !(isBlankOrEnd ch || "-?:,[]\x7b\x7d#&*!|>'\"%@`".toList.contains ch) ||
    (!isBlankOrEnd (s.peekAt 1) && (ch == '-' || (s.flowLevel == 0 && (ch == '?' || ch == ':'))))

/-- Whether a document marker (`---` or `...`) starts here, at the start of a line. -/
def checkMarker (s : Scanner) (c : Char) : Bool :=
  s.column == 0 && s.peekAt 0 == c && s.peekAt 1 == c && s.peekAt 2 == c &&
    isBlankOrEnd (s.peekAt 3)

/-- Fetches the next tokens. -/
def fetchMoreTokens : ScanM Unit := do
  scanToNextToken
  staleKeys
  unwindIndent (← get).column
  let ch ← peekChar
  let s ← get
  if ch == '-' || ch == '.' || ch == '?' || ch == ':' then
    demand (s.pos + (if s.column == 0 && (ch == '-' || ch == '.') then 4 else 2))
  let s ← get
  let blankNext := isBlankOrEnd (s.peekAt 1)
  let block := s.flowLevel == 0
  if ch == '\x00' then fetchStreamEnd
  else if ch == '%' && s.column == 0 then fetchDirective
  else if ch == '-' && checkMarker s '-' then fetchDocumentIndicator .documentStart
  else if ch == '.' && checkMarker s '.' then fetchDocumentIndicator .documentEnd
  else if ch == '[' then fetchFlowCollectionStart .flowSequenceStart
  else if ch == '\x7b' then fetchFlowCollectionStart .flowMappingStart
  else if ch == ']' then fetchFlowCollectionEnd .flowSequenceEnd
  else if ch == '\x7d' then fetchFlowCollectionEnd .flowMappingEnd
  else if ch == ',' then fetchFlowEntry
  else if ch == '-' && blankNext then fetchBlockEntry
  else if ch == '?' && (!block || blankNext) then fetchKey
  else if ch == ':' && (!block || blankNext) then fetchValue
  else if ch == '*' then fetchKeyable (scanAnchor true)
  else if ch == '&' then fetchKeyable (scanAnchor false)
  else if ch == '!' then fetchKeyable scanTag
  else if ch == '|' && block then fetchBlockScalar '|'
  else if ch == '>' && block then fetchBlockScalar '>'
  else if ch == '\'' then fetchKeyable (scanFlowScalar '\'')
  else if ch == '"' then fetchKeyable (scanFlowScalar '"')
  else if checkPlain s then fetchKeyable scanPlain
  else
    let problem :=
      "found character " ++ quote (String.singleton ch) ++ " that cannot start any token"
    scanFail { context := some "while scanning for the next token", problem := some problem,
               problemMark := some s.mark }

/-- Whether more tokens must be fetched before the first one is final. -/
def needMoreTokens : ScanM Bool := do
  let s ← get
  if s.done then return false
  if s.tokens.isEmpty then return true
  staleKeys
  let s ← get
  return nextPossibleKey s == some s.tokensTaken

/-- Fetches tokens until the first one is final. -/
def ensureTokens : ScanM Unit := do
  for _ in [0:(← get).text.size + 2] do
    if ← needMoreTokens then fetchMoreTokens else break

/-- The next token, if any, left in place. -/
def peekToken : ScanM (Option Token) := do
  ensureTokens
  return (← get).tokens[0]?

/-- Whether the next token is of a kind satisfying `p`. -/
def checkToken (p : TokenKind → Bool) : ScanM Bool := do
  return ((← peekToken).map fun t => p t.kind).getD false

/-- Takes the next token. -/
def getToken : ScanM (Option Token) := do
  ensureTokens
  let s ← get
  match s.tokens[0]? with
  | some t =>
    set { s with tokens := s.tokens.extract 1 s.tokens.size, tokensTaken := s.tokensTaken + 1 }
    return some t
  | none => return none

/-- The scanner once the characters of its first two reads are found printable. -/
def Scanner.firstReads (s : Scanner) : Except LoadFault Scanner :=
  match s.unprintableIn 0 (min (s.text.size - 1) (2 * readChunk)) with
  | some (i, c) => .error (.yaml (.unacceptable c.toNat i))
  | none => .ok s

/-- A scanner at the start of a text, after its first two reads, the stream start token fetched;
`fault` is what a read needing characters past the end of the text fails with, when its bytes
break there. -/
def Scanner.open (chars : List Char) (fault : Option Text.Utf8Fault) : Except LoadFault Scanner :=
  let s : Scanner := { text := (chars ++ ['\x00']).toArray, loaded := 2 * readChunk,
                       fault := fault, tokens := #[⟨.streamStart, ⟨0, 0, 0⟩, ⟨0, 0, 0⟩⟩] }
  match fault with
  | some f => if chars.length < 2 * readChunk then .error (.undecodable f) else s.firstReads
  | none => s.firstReads

end AccessLog.Yaml

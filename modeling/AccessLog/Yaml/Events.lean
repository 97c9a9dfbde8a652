import AccessLog.Yaml.Scanner

/-!
# YAML: parsing tokens into events

The parser reads the scanner's tokens as a stream of documents and delivers events: the stream's
start and end, each document's start and end, scalars and aliases, and the starts and ends of
sequences and mappings. It is a state machine: its state says what may come next, and a stack
of states says where to return when a node is complete. Every event is produced on demand and
held until it is taken, so that the next event can be looked at without taking it.

A document is implicit — a block node without directives or `---` — or explicit: directives,
`---`, and a block node that may be missing (an empty scalar then stands for it). `%TAG`
directives bind tag handles for the document; the handles `!` and `!!` are bound by default.
A node may carry an anchor and a tag, in either order; a tag with an unbound handle is an error.

Block collections end at a block-end token; a sequence directly under a mapping key need not be
indented. In flow collections, entries are separated by commas, and a `key: value` pair inside
a flow sequence is a mapping of one pair. An empty scalar stands for every missing key, value
or entry.
-/

namespace AccessLog.Yaml

open AccessLog.Text

/-- Where the parser is: what it expects next. -/
inductive ParseState where
  | streamStart
  | implicitDocumentStart
  | documentStart
  | documentEnd
  | documentContent
  | blockNode
  | blockSequenceFirstEntry
  | blockSequenceEntry
  | indentlessSequenceEntry
  | blockMappingFirstKey
  | blockMappingKey
  | blockMappingValue
  | flowSequenceFirstEntry
  | flowSequenceEntry
  | flowSequenceEntryMappingKey
  | flowSequenceEntryMappingValue
  | flowSequenceEntryMappingEnd
  | flowMappingFirstKey
  | flowMappingKey
  | flowMappingValue
  | flowMappingEmptyValue
  deriving Repr, DecidableEq, Inhabited

/-- The tag handles every document binds. -/
def defaultTagHandles : List (String × String) := [("!", "!"), ("!!", "tag:yaml.org,2002:")]

/-- The state of the parser, with the scanner it reads from. -/
structure EventReader where
  /-- The scanner. -/
  scanner : Scanner
  /-- What is expected next; nothing after the stream's end. -/
  state : Option ParseState := some .streamStart
  /-- Where to return when the current node is complete. -/
  states : List ParseState := []
  /-- The starts of the open collections. -/
  marks : List Mark := []
  /-- The tag handles of the current document. -/
  tagHandles : List (String × String) := defaultTagHandles
  /-- The event produced and not yet taken. -/
  current : Option Event := none
  deriving Inhabited

/-- Parsing: a state of the parser, and loading faults. -/
abbrev ParseM := StateT EventReader (Except LoadFault)

/-- Runs a step of the scanner. -/
def scan {α : Type} (m : ScanM α) : ParseM α := fun r => do
  let (a, s) ← m.run r.scanner
  pure (a, { r with scanner := s })

/-- The next token, left in place. -/
def nextToken : ParseM Token := do
  return (← scan peekToken).getD default

/-- Takes the next token. -/
def takeToken : ParseM Token := do
  return (← scan getToken).getD default

/-- Whether the next token is of a kind satisfying `p`. -/
def nextIs (p : TokenKind → Bool) : ParseM Bool := scan (checkToken p)

/-- Fails with a located error. -/
def parseFail {α : Type} (e : MarkedError) : ParseM α := throw (.yaml (.marked e))

/-- Sets what is expected next. -/
def goTo (s : ParseState) : ParseM Unit := modify fun r => { r with state := some s }

/-- Remembers where to return. -/
def pushState (s : ParseState) : ParseM Unit := modify fun r => { r with states := s :: r.states }

/-- Returns to the remembered state. -/
def popState : ParseM Unit := modify fun r =>
  match r.states with
  | s :: rest => { r with state := some s, states := rest }
  | [] => { r with state := none }

/-- Remembers the start of a collection. -/
def pushMark (m : Mark) : ParseM Unit := modify fun r => { r with marks := m :: r.marks }

/-- Forgets the start of the innermost collection. -/
def popMark : ParseM Unit := modify fun r => { r with marks := r.marks.drop 1 }

/-- The start of the innermost collection. -/
def topMark : ParseM Mark := return (← get).marks.headD default

/-- An empty plain scalar at a mark. -/
def emptyScalar (m : Mark) : Event := ⟨.scalar none none true false "", m, m⟩

/-- Whether a token is a directive. -/
def TokenKind.isDirective : TokenKind → Bool
  | .directive .. => true
  | _ => false

/-- Whether a token is a scalar. -/
def TokenKind.isScalar : TokenKind → Bool
  | .scalar .. => true
  | _ => false

/-- Reads the directives of an explicit document, binding its tag handles. -/
def processDirectives : ParseM Unit := do
  modify fun r => { r with tagHandles := [] }
  let mut version := false
  for _ in [0:(← get).scanner.text.size + 1] do
    if !(← nextIs TokenKind.isDirective) then break
    let t ← takeToken
    match t.kind with
    | .directive "YAML" (.version major _) =>
      if version then parseFail (.at "found duplicate YAML directive" t.start)
      if major != 1 then
        parseFail (.at "found incompatible YAML document (version 1.* is required)" t.start)
      version := true
    | .directive "TAG" (.tagHandle handle uri) =>
      if ((← get).tagHandles.lookup handle).isSome then
        parseFail (.at ("duplicate tag handle " ++ quote handle) t.start)
      modify fun r => { r with tagHandles := r.tagHandles ++ [(handle, uri)] }
    | _ => pure ()
  for (h, uri) in defaultTagHandles do
    if ((← get).tagHandles.lookup h).isNone then
      modify fun r => { r with tagHandles := r.tagHandles ++ [(h, uri)] }

/-- Starts an explicit document, or ends the stream. -/
def parseDocumentStart : ParseM Event := do
  for _ in [0:(← get).scanner.text.size + 1] do
    if ← nextIs (· == .documentEnd) then discard takeToken else break
  if !(← nextIs (· == .streamEnd)) then
    let start := (← nextToken).start
    processDirectives
    if !(← nextIs (· == .documentStart)) then
      let t ← nextToken
      parseFail (.at ("expected '<document start>', but found " ++ quote t.kind.id) t.start)
    let t ← takeToken
    pushState .documentEnd
    goTo .documentContent
    return ⟨.documentStart true, start, t.stop⟩
  else
    let t ← takeToken
    modify fun r => { r with state := none }
    return ⟨.streamEnd, t.start, t.stop⟩

/-- Reads a node: an alias, or an anchor and a tag (in either order) followed by a scalar, a
collection's start, or nothing (an empty scalar). -/
def parseNode (block indentless : Bool) : ParseM Event := do
  if let .alias name := (← nextToken).kind then
    let t ← takeToken
    popState
    return ⟨.alias name, t.start, t.stop⟩
  let mut anchor : Option String := none
  let mut tagged : Option (Option String × String) := none
  let mut start : Option Mark := none
  let mut stop : Mark := default
  let mut tagMark : Mark := default
  let first ← nextToken
  match first.kind with
  | .anchor a =>
    discard takeToken
    start := some first.start
    stop := first.stop
    anchor := some a
    let t ← nextToken
    if let .tag h s := t.kind then
      discard takeToken
      tagMark := t.start
      stop := t.stop
      tagged := some (h, s)
  | .tag h s =>
    discard takeToken
    start := some first.start
    tagMark := first.start
    stop := first.stop
    tagged := some (h, s)
    let t ← nextToken
    if let .anchor a := t.kind then
      discard takeToken
      stop := t.stop
      anchor := some a
  | _ => pure ()
  let mut tag : Option String := none
  match tagged with
  | some (some h, suffix) =>
    match (← get).tagHandles.lookup h with
    | some p => tag := some (p ++ suffix)
    | none =>
      parseFail (.within "while parsing a node" (start.getD default)
        ("found undefined tag handle " ++ quote h) tagMark)
  | some (none, suffix) => tag := some suffix
  | none => pure ()
  let startMark ← match start with
    | some m => pure m
    | none => do
      let m := (← nextToken).start
      stop := m
      pure m
  let implicit := tag.isNone || tag == some "!"
  let t ← nextToken
  if indentless && t.kind == .blockEntry then
    goTo .indentlessSequenceEntry
    return ⟨.sequenceStart anchor tag implicit, startMark, t.stop⟩
  match t.kind with
  | .scalar text plain _ =>
    discard takeToken
    let plainImplicit := (plain && tag.isNone) || tag == some "!"
    let quotedImplicit := !plainImplicit && tag.isNone
    popState
    return ⟨.scalar anchor tag plainImplicit quotedImplicit text, startMark, t.stop⟩
  | .flowSequenceStart =>
    goTo .flowSequenceFirstEntry
    return ⟨.sequenceStart anchor tag implicit, startMark, t.stop⟩
  | .flowMappingStart =>
    goTo .flowMappingFirstKey
    return ⟨.mappingStart anchor tag implicit, startMark, t.stop⟩
  | .blockSequenceStart =>
    if block then
      goTo .blockSequenceFirstEntry
      return ⟨.sequenceStart anchor tag implicit, startMark, t.start⟩
  | .blockMappingStart =>
    if block then
      goTo .blockMappingFirstKey
      return ⟨.mappingStart anchor tag implicit, startMark, t.start⟩
  | _ => pure ()
  if anchor.isSome || tag.isSome then
    popState
    return ⟨.scalar anchor tag implicit false "", startMark, stop⟩
  let what := if block then "block" else "flow"
  parseFail (.within ("while parsing a " ++ what ++ " node") startMark
    ("expected the node content, but found " ++ quote t.kind.id) t.start)

/-- Reads an entry of a block sequence, or its end. -/
def parseBlockSequenceEntry : ParseM Event := do
  if ← nextIs (· == .blockEntry) then
    let t ← takeToken
    if !(← nextIs fun k => k == .blockEntry || k == .blockEnd) then
      pushState .blockSequenceEntry
      return ← parseNode true false
    else
      goTo .blockSequenceEntry
      return emptyScalar t.stop
  if !(← nextIs (· == .blockEnd)) then
    let t ← nextToken
    parseFail (.within "while parsing a block collection" (← topMark)
      ("expected <block end>, but found " ++ quote t.kind.id) t.start)
  let t ← takeToken
  popState
  popMark
  return ⟨.sequenceEnd, t.start, t.stop⟩

/-- Reads an entry of a sequence that is not indented under its mapping key, or its end. -/
def parseIndentlessSequenceEntry : ParseM Event := do
  if ← nextIs (· == .blockEntry) then
    let t ← takeToken
    if !(← nextIs fun k => k == .blockEntry || k == .key || k == .value || k == .blockEnd) then
      pushState .indentlessSequenceEntry
      return ← parseNode true false
    else
      goTo .indentlessSequenceEntry
      return emptyScalar t.stop
  let t ← nextToken
  popState
  return ⟨.sequenceEnd, t.start, t.start⟩

/-- Reads a key of a block mapping, or its end. -/
def parseBlockMappingKey : ParseM Event := do
  if ← nextIs (· == .key) then
    let t ← takeToken
    if !(← nextIs fun k => k == .key || k == .value || k == .blockEnd) then
      pushState .blockMappingValue
      return ← parseNode true true
    else
      goTo .blockMappingValue
      return emptyScalar t.stop
  if !(← nextIs (· == .blockEnd)) then
    let t ← nextToken
    parseFail (.within "while parsing a block mapping" (← topMark)
      ("expected <block end>, but found " ++ quote t.kind.id) t.start)
  let t ← takeToken
  popState
  popMark
  return ⟨.mappingEnd, t.start, t.stop⟩

/-- Reads a value of a block mapping. -/
def parseBlockMappingValue : ParseM Event := do
  if ← nextIs (· == .value) then
    let t ← takeToken
    if !(← nextIs fun k => k == .key || k == .value || k == .blockEnd) then
      pushState .blockMappingKey
      return ← parseNode true true
    else
      goTo .blockMappingKey
      return emptyScalar t.stop
  goTo .blockMappingKey
  return emptyScalar (← nextToken).start

/-- Reads an entry of a flow sequence, or its end. -/
def parseFlowSequenceEntry (first : Bool) : ParseM Event := do
  if !(← nextIs (· == .flowSequenceEnd)) then
    if !first then
      if ← nextIs (· == .flowEntry) then discard takeToken
      else
        let t ← nextToken
        parseFail (.within "while parsing a flow sequence" (← topMark)
          ("expected ',' or ']', but got " ++ quote t.kind.id) t.start)
    if ← nextIs (· == .key) then
      let t ← nextToken
      goTo .flowSequenceEntryMappingKey
      return ⟨.mappingStart none none true, t.start, t.stop⟩
    else if !(← nextIs (· == .flowSequenceEnd)) then
      pushState .flowSequenceEntry
      return ← parseNode false false
  let t ← takeToken
  popState
  popMark
  return ⟨.sequenceEnd, t.start, t.stop⟩

/-- Reads the key of a one-pair mapping inside a flow sequence. -/
def parseFlowSequenceEntryMappingKey : ParseM Event := do
  let t ← takeToken
  if !(← nextIs fun k => k == .value || k == .flowEntry || k == .flowSequenceEnd) then
    pushState .flowSequenceEntryMappingValue
    parseNode false false
  else
    goTo .flowSequenceEntryMappingValue
    return emptyScalar t.stop

/-- Reads the value of a one-pair mapping inside a flow sequence. -/
def parseFlowSequenceEntryMappingValue : ParseM Event := do
  if ← nextIs (· == .value) then
    let t ← takeToken
    if !(← nextIs fun k => k == .flowEntry || k == .flowSequenceEnd) then
      pushState .flowSequenceEntryMappingEnd
      return ← parseNode false false
    else
      goTo .flowSequenceEntryMappingEnd
      return emptyScalar t.stop
  goTo .flowSequenceEntryMappingEnd
  return emptyScalar (← nextToken).start

/-- Reads a key of a flow mapping, or its end. -/
def parseFlowMappingKey (first : Bool) : ParseM Event := do
  if !(← nextIs (· == .flowMappingEnd)) then
    if !first then
      if ← nextIs (· == .flowEntry) then discard takeToken
      else
        let t ← nextToken
        parseFail (.within "while parsing a flow mapping" (← topMark)
          ("expected ',' or '\x7d', but got " ++ quote t.kind.id) t.start)
    if ← nextIs (· == .key) then
      let t ← takeToken
      if !(← nextIs fun k => k == .value || k == .flowEntry || k == .flowMappingEnd) then
        pushState .flowMappingValue
        return ← parseNode false false
      else
        goTo .flowMappingValue
        return emptyScalar t.stop
    else if !(← nextIs (· == .flowMappingEnd)) then
      pushState .flowMappingEmptyValue
      return ← parseNode false false
  let t ← takeToken
  popState
  popMark
  return ⟨.mappingEnd, t.start, t.stop⟩

/-- Reads a value of a flow mapping. -/
def parseFlowMappingValue : ParseM Event := do
  if ← nextIs (· == .value) then
    let t ← takeToken
    if !(← nextIs fun k => k == .flowEntry || k == .flowMappingEnd) then
      pushState .flowMappingKey
      return ← parseNode false false
    else
      goTo .flowMappingKey
      return emptyScalar t.stop
  goTo .flowMappingKey
  return emptyScalar (← nextToken).start

/-- Produces the event the state expects. -/
def parseStep : ParseState → ParseM Event
  | .streamStart => do
    let t ← takeToken
    goTo .implicitDocumentStart
    return ⟨.streamStart, t.start, t.stop⟩
  | .implicitDocumentStart => do
    if !(← nextIs fun k => k.isDirective || k == .documentStart || k == .streamEnd) then
      modify fun r => { r with tagHandles := defaultTagHandles }
      let m := (← nextToken).start
      pushState .documentEnd
      goTo .blockNode
      return ⟨.documentStart false, m, m⟩
    else parseDocumentStart
  | .documentStart => parseDocumentStart
  | .documentEnd => do
    let t ← nextToken
    let (stop, explicit) ←
      if t.kind == .documentEnd then do
        let e ← takeToken
        pure (e.stop, true)
      else pure (t.start, false)
    goTo .documentStart
    return ⟨.documentEnd explicit, t.start, stop⟩
  | .documentContent => do
    if ← nextIs fun k => k.isDirective || k == .documentStart || k == .documentEnd ||
        k == .streamEnd then
      let m := (← nextToken).start
      popState
      return emptyScalar m
    else parseNode true false
  | .blockNode => parseNode true false
  | .blockSequenceFirstEntry => do
    pushMark (← takeToken).start
    parseBlockSequenceEntry
  | .blockSequenceEntry => parseBlockSequenceEntry
  | .indentlessSequenceEntry => parseIndentlessSequenceEntry
  | .blockMappingFirstKey => do
    pushMark (← takeToken).start
    parseBlockMappingKey
  | .blockMappingKey => parseBlockMappingKey
  | .blockMappingValue => parseBlockMappingValue
  | .flowSequenceFirstEntry => do
    pushMark (← takeToken).start
    parseFlowSequenceEntry true
  | .flowSequenceEntry => parseFlowSequenceEntry false
  | .flowSequenceEntryMappingKey => parseFlowSequenceEntryMappingKey
  | .flowSequenceEntryMappingValue => parseFlowSequenceEntryMappingValue
  | .flowSequenceEntryMappingEnd => do
    goTo .flowSequenceEntry
    let m := (← nextToken).start
    return ⟨.mappingEnd, m, m⟩
  | .flowMappingFirstKey => do
    pushMark (← takeToken).start
    parseFlowMappingKey true
  | .flowMappingKey => parseFlowMappingKey false
  | .flowMappingValue => parseFlowMappingValue
  | .flowMappingEmptyValue => do
    goTo .flowMappingKey
    return emptyScalar (← nextToken).start

/-- The next event, left in place; nothing after the stream's end. -/
def peekEvent : ParseM (Option Event) := do
  let r ← get
  match r.current, r.state with
  | some e, _ => return some e
  | none, none => return none
  | none, some s =>
    let e ← parseStep s
    modify fun r => { r with current := some e }
    return some e

/-- Takes the next event. -/
def takeEvent : ParseM (Option Event) := do
  let e ← peekEvent
  modify fun r => { r with current := none }
  return e

/-- Whether the next event is of a kind satisfying `p`. -/
def eventIs (p : EventKind → Bool) : ParseM Bool := do
  return ((← peekEvent).map fun e => p e.kind).getD false

end AccessLog.Yaml

import AccessLog.Yaml.Events
import AccessLog.Yaml.Resolve

/-!
# YAML: composing events into a node graph

The composer turns the events of the one document of a stream into nodes. Nodes are kept in an
array and refer to their items and pairs by place, so that an alias is one more reference to
the node its anchor names, never a copy: a node reachable along several paths is one node, and a
collection may even contain itself, since an anchor names its collection as soon as the
collection starts.

A node's tag is the one it was given, unless that is missing or the non-specific `!`: then a
scalar's tag is resolved from its text (as a plain scalar when it may be), and a collection is
a sequence or a mapping.

An alias to an anchor not yet seen, and an anchor given twice in the document, are errors; so is
a second document in the stream. Collections may nest `nestingLimit` deep, no deeper: the
composer refuses a node nested further, as a reader that descends one level per collection runs
out of room.

## Main statements

* `Composer.add_size`: adding a node grows the node array by one.
-/

namespace AccessLog.Yaml

open AccessLog.Text

/-- The state of the composer, with the parser it reads from. -/
structure Composer where
  /-- The parser. -/
  reader : EventReader
  /-- The nodes composed so far. -/
  nodes : Array Node := #[]
  /-- The anchors of the document and the nodes they name. -/
  anchors : List (String × Nat) := []
  deriving Inhabited

/-- Adds a node; gives its place. -/
def Composer.add (c : Composer) (n : Node) : Composer × Nat :=
  ({ c with nodes := c.nodes.push n }, c.nodes.size)

theorem Composer.add_size (c : Composer) (n : Node) :
    (c.add n).1.nodes.size = c.nodes.size + 1 := by
  simp [Composer.add]

/-- Composing: a state of the composer, and loading faults. -/
abbrev ComposeM := StateT Composer (Except LoadFault)

/-- Runs a step of the parser. -/
def parseStepM {α : Type} (m : ParseM α) : ComposeM α := fun c => do
  let (a, r) ← m.run c.reader
  pure (a, { c with reader := r })

/-- Fails with a located error. -/
def composeFail {α : Type} (e : MarkedError) : ComposeM α := throw (.yaml (.marked e))

/-- Takes the next event. -/
def nextEvent : ComposeM Event := do
  return (← parseStepM takeEvent).getD default

/-- The next event, left in place. -/
def lookEvent : ComposeM Event := do
  return (← parseStepM peekEvent).getD default

/-- Whether the next event ends a sequence. -/
def EventKind.isSequenceEnd : EventKind → Bool
  | .sequenceEnd => true
  | _ => false

/-- Whether the next event ends a mapping. -/
def EventKind.isMappingEnd : EventKind → Bool
  | .mappingEnd => true
  | _ => false

/-- Adds a node, naming it by an anchor if there is one; gives its place. -/
def addNode (anchor : Option String) (n : Node) : ComposeM Nat := do
  let (c, i) := (← get).add n
  set { c with anchors := c.anchors ++ (anchor.map fun a => (a, i)).toList }
  return i

/-- Sets what a collection holds. -/
def fill (i : Nat) (b : NodeBody) : ComposeM Unit :=
  modify fun c => { c with nodes := c.nodes.modify i fun n => { n with body := b } }

/-- The tag of a node: the given one, unless it is missing or `!`. -/
def nodeTag (given : Option String) (otherwise : String) : String :=
  match given with
  | some t => if t == "!" then otherwise else t
  | none => otherwise

/-- How deep collections may nest: a node `nestingLimit` collections deep is refused, as the
loader's own nesting of calls runs out there. -/
def nestingLimit : Nat := 489

/-- Composes the node that starts with the next event, `depth` collections deep; gives its
place. Nesting as deep as `nestingLimit`, or deeper than `fuel`, is refused. -/
def composeNode (bound depth : Nat) : Nat → ComposeM Nat
  | 0 => throw .tooDeep
  | fuel + 1 => do
    if nestingLimit ≤ depth then throw .tooDeep
    let e ← nextEvent
    if let .alias a := e.kind then
      match (← get).anchors.lookup a with
      | some i => return i
      | none => composeFail (.at ("found undefined alias " ++ quote a) e.start)
    if let some a := e.kind.anchor? then
      if let some i := (← get).anchors.lookup a then
        let first := ((← get).nodes[i]?.map Node.start).getD default
        composeFail (.within ("found duplicate anchor " ++ quote a ++ "; first occurrence") first
          "second occurrence" e.start)
    match e.kind with
    | .scalar anchor tag plainImplicit _ text =>
      let t := nodeTag tag (resolveScalar text plainImplicit)
      addNode anchor ⟨t, .scalar text, e.start⟩
    | .sequenceStart anchor tag _ =>
      let i ← addNode anchor ⟨nodeTag tag (standardTag "seq"), .sequence [], e.start⟩
      let mut items : List Nat := []
      for _ in [0:bound] do
        if (← lookEvent).kind.isSequenceEnd then break
        items := items ++ [← composeNode bound (depth + 1) fuel]
      discard nextEvent
      fill i (.sequence items)
      return i
    | .mappingStart anchor tag _ =>
      let i ← addNode anchor ⟨nodeTag tag (standardTag "map"), .mapping [], e.start⟩
      let mut pairs : List (Nat × Nat) := []
      for _ in [0:bound] do
        if (← lookEvent).kind.isMappingEnd then break
        let k ← composeNode bound (depth + 1) fuel
        let v ← composeNode bound (depth + 1) fuel
        pairs := pairs ++ [(k, v)]
      discard nextEvent
      fill i (.mapping pairs)
      return i
    | _ => return 0

/-- A composed document: its nodes and the place of its root. -/
structure Document where
  /-- The nodes. -/
  nodes : Array Node
  /-- The place of the root. -/
  root : Nat
  deriving Inhabited

/-- Composes the one document of a stream, if there is one; a second document is an error. -/
def composeSingle : ComposeM (Option Document) := do
  discard nextEvent
  let bound := 4 * (← get).reader.scanner.text.size + 16
  let mut doc : Option Document := none
  if !((← lookEvent).kind == .streamEnd) then
    discard nextEvent
    let root ← composeNode bound 0 bound
    discard nextEvent
    doc := some ⟨(← get).nodes, root⟩
    modify fun c => { c with anchors := [] }
  if !((← lookEvent).kind == .streamEnd) then
    let e ← nextEvent
    let start := (doc.bind fun d => d.nodes[d.root]?.map Node.start).getD default
    composeFail (.within "expected a single document in the stream" start
      "but found another document" e.start)
  discard nextEvent
  return doc

end AccessLog.Yaml

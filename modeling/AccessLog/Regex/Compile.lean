import AccessLog.Regex.Match

/-!
# Patterns: compiling

`Pattern.compile` reads a pattern text under initial flags and checks what can only be checked
once the whole text is read, in this order:

1. a `)` with no group to close: `unbalanced parenthesis`;
2. a conditional naming a group number that the pattern never opens;
3. walking the nodes in the order they are written, each node before what it holds: a
   look-behind whose body can match texts of different lengths, and, in a template pattern, any
   repetition at all (named by its kind: greedy, lazy or possessive);
4. a look-behind that reaches back `behindLimit` characters or more, which the engine refuses.

The first problem found is the one reported. Widths are counted only up to `maxRepeat`, the
largest repetition count: a look-behind whose width is at least that is not of one width.
-/

namespace AccessLog.Regex

/-- What is checked of a node once the whole pattern is read. -/
inductive NodeCheck where
  /-- A look-behind must have one width. -/
  | behind (body : List Node)
  /-- A template may hold no repetition. -/
  | repetition (greed : Greed)

/-- The name of a kind of repetition in a refusal. -/
def Greed.operatorName : Greed → String
  | .greedy => "MAX_REPEAT"
  | .lazy => "MIN_REPEAT"
  | .possessive => "POSSESSIVE_REPEAT"

mutual
/-- The checks of a node, each node before what it holds. -/
def Node.checks : Node → List NodeCheck
  | .alt bs => altChecks bs
  | .group _ body | .atomic body => seqChecks body
  | .rep _ _ greed body => .repetition greed :: seqChecks body
  | .look true _ body => .behind body :: seqChecks body
  | .look false _ body => seqChecks body
  | .cond _ yes no => seqChecks yes ++ seqChecks no
  | _ => []

/-- The checks of a sequence, in order. -/
def seqChecks : List Node → List NodeCheck
  | [] => []
  | n :: rest => n.checks ++ seqChecks rest

/-- The checks of the branches of an alternation, in order. -/
def altChecks : List (List Node) → List NodeCheck
  | [] => []
  | b :: bs => seqChecks b ++ altChecks bs
end

/-- The reach of a look-behind, which the engine keeps in a signed 32-bit field. -/
def behindLimit : Nat := 2147483648

/-- The initial state of reading a pattern text. -/
def ReadState.initial (source : String) (flags : Flags) (bytes : Bool := false) : ReadState :=
  { src := source.toList.toArray, index := 0, next := none, flags := flags, groups := 1,
    names := [], names_nodup := List.nodup_nil, closed := [], lookbehindGroups := none,
    condRefs := [], bytes := bytes }

/-- Refuses type flags that a pattern of its kind cannot hold: a text pattern no `locale`, a byte
string no `unicode`, and neither both `ascii` and the other type flag it may take. -/
def checkTypeFlags (bytes : Bool) (flags : Flags) : ReadM Unit :=
  if bytes then
    if flags.unicode then throw (.incompatible "cannot use UNICODE flag with a bytes pattern")
    else if flags.ascii && flags.locale then
      throw (.incompatible "ASCII and LOCALE flags are incompatible")
    else pure ()
  else if flags.locale then throw (.incompatible "cannot use LOCALE flag with a str pattern")
  else if flags.ascii && flags.unicode then
    throw (.incompatible "ASCII and UNICODE flags are incompatible")
  else pure ()

/-- Reads a whole pattern text and checks what needs the whole of it. -/
def readPattern : ReadM (List Node) := do
  advance
  let s ← get
  let fuel := 8 * (s.src.size + 4)
  let nodes ← readAlternation fuel s.flags.verbose 0 []
  let s ← get
  checkTypeFlags s.bytes s.flags
  if s.next.isSome then refuse "unbalanced parenthesis"
  for (g, pos) in s.condRefs do
    if s.groups ≤ g then refuseAt ("invalid group reference " ++ toString g) pos
  for check in seqChecks nodes do
    match check with
    | .behind body =>
      let w := seqWidth s.closed body
      if w.hi != some w.lo || maxRepeat ≤ w.lo then
        throw (.malformed ⟨"look-behind requires fixed-width pattern", none⟩)
    | .repetition greed =>
      if s.flags.template then
        throw (.malformed ⟨"internal: unsupported template operator " ++ greed.operatorName, none⟩)
  for check in seqChecks nodes do
    match check with
    | .behind body => if behindLimit ≤ (seqWidth s.closed body).lo then throw .invalidCode
    | .repetition _ => pure ()
  pure nodes

namespace Pattern

/-- Compiles a pattern text under initial flags; a byte string is given as the characters of its
bytes, with `bytes` set. -/
def compile (source : String) (flags : Flags := {}) (bytes : Bool := false) :
    Except CompileError Pattern :=
  match readPattern.run (ReadState.initial source flags bytes) with
  | .ok (nodes, s) =>
    .ok { source := source, nodes := nodes, groups := s.groups - 1, names := s.names,
          names_nodup := s.names_nodup, widths := s.closed, isBytes := bytes }
  | .error e => .error e

end Pattern

end AccessLog.Regex

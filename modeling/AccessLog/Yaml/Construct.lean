import AccessLog.Yaml.Compose
import AccessLog.Value
import AccessLog.Text.Case
import AccessLog.Number.Read
import AccessLog.SetOrder

/-!
# YAML: constructing values from nodes

Each standard tag has a builder: null, booleans, integers, floats, base64 binary, timestamps and
strings from scalars; lists, dictionaries, sets, ordered maps and pair lists from collections.
Any other tag is an error.

Scalars are built at once. A collection is built in two steps, as a loader that supports
self-containing collections must: the empty collection is made at once, and its contents are
added later, after every collection made before it. Building a document therefore finds its
first error in breadth-first order: the root, then the children of the root, then theirs, each
collection's children taken in order, scalars among them built as they come. `firstFault`
follows exactly that order; when it finds nothing, `build` makes the value.

Before a mapping is built, its merge keys (`<<`) are expanded: the pairs of the merged mappings
(a mapping, or a list of mappings of which the earlier win) come first, and the mapping's own
pairs after them, so that its own win; `=` keys become plain strings. Keys of a mapping must be
hashable, so a collection key is an error. A later equal key replaces the value of an earlier
one, which keeps its place. A set takes the keys of its mapping into a table, and shows them in
the table's order (`setOrder`).

Scalar builders follow the standard definitions, with their faults: an integer text may carry
underscores, a sign, a base marker or sexagesimal places; a float may be `.inf` or `.nan`; a
timestamp is a date, or a date and time with a fraction and a zone, checked like a calendar date
and time.
-/

namespace AccessLog.Yaml

open AccessLog.Text AccessLog.Number AccessLog.Archive

/-- How a tag's values are built. -/
inductive Builder where
  | null
  | bool
  | int
  | float
  | binary
  | timestamp
  | str
  | seq
  | map
  | set
  | omap
  | pairs
  | undefined
  deriving Repr, DecidableEq, Inhabited

/-- The builder of a tag. -/
def builderOf (tag : String) : Builder :=
  let known : List (String × Builder) :=
    [("null", .null), ("bool", .bool), ("int", .int), ("float", .float), ("binary", .binary),
     ("timestamp", .timestamp), ("omap", .omap), ("pairs", .pairs), ("set", .set),
     ("str", .str), ("seq", .seq), ("map", .map)]
  ((known.find? fun (n, _) => standardTag n == tag).map (·.2)).getD .undefined

/-- Whether a builder makes a collection, in two steps. -/
def Builder.isCollection : Builder → Bool
  | .seq | .map | .set | .omap | .pairs => true
  | _ => false

/-- A fault located at a node. -/
def nodeFault (problem : String) (at_ : Mark) : LoadFault := .yaml (.marked (.at problem at_))

/-- A fault of building a mapping. -/
def mappingFault (context : String) (start : Mark) (problem : String) (at_ : Mark) : LoadFault :=
  .yaml (.marked (.within context start problem at_))

/-! ## Scalars -/

/-- The value of a boolean word, lowered. -/
def boolWord (s : String) : Option Bool :=
  [("yes", true), ("no", false), ("true", true), ("false", false), ("on", true),
    ("off", false)].lookup s

/-- The message of an integer text that does not read in a base. -/
def baseLiteralMessage (base : Nat) (s : String) : String :=
  "invalid literal for int() with base " ++ natText base ++ ": " ++
    String.ofList ((quote s).toList.take 200)

/-- Reads an integer in a base; base 10 is refused beyond the digit limit. -/
def intIn (base : Nat) (s : String) : Except LoadFault Int :=
  if base == 10 then (Value.toInt (.str s)).mapError .value
  else match readIntIn? base s with
    | some i => .ok i
    | none => .error (.value (.badContent (baseLiteralMessage base s)))

/-- The first character of a text, or an index fault for the empty text. -/
def firstChar (s : String) : Except LoadFault Char :=
  match s.toList with
  | c :: _ => .ok c
  | [] => .error (.value (.outOfRange "string index out of range"))

/-- Drops a sign: the sign's factor and the rest. -/
def splitSign (s : String) : Except LoadFault (Int × String) := do
  let c ← firstChar s
  let factor : Int := if c == '-' then -1 else 1
  if c == '-' || c == '+' then return (factor, String.ofList (s.toList.drop 1))
  else return (factor, s)

/-- The value of sexagesimal places, most significant first. -/
def sexagesimalValue (places : List Int) : Int :=
  places.foldl (fun acc d => acc * 60 + d) 0

/-- Builds an integer. -/
def buildInt (text : String) : Except LoadFault Value := do
  let (factor, v) ← splitSign (text.replace "_" "")
  if v == "0" then return .int 0
  let c ← firstChar v
  let rest := String.ofList (v.toList.drop 2)
  if v.startsWith "0b" then return .int (factor * (← intIn 2 rest))
  else if v.startsWith "0x" then return .int (factor * (← intIn 16 rest))
  else if c == '0' then return .int (factor * (← intIn 8 v))
  else if v.toList.contains ':' then
    let places ← ((v.splitOn ":").mapM (intIn 10))
    return .int (factor * sexagesimalValue places)
  else return .int (factor * (← intIn 10 v))

/-- Reads a float as `float()` does. -/
def floatOf (s : String) : Except LoadFault Float :=
  match readFloat? s with
  | some x => .ok x
  | none => .error (.value (.badContent ("could not convert string to float: " ++ quote s)))

/-- Builds a float. -/
def buildFloat (text : String) : Except LoadFault Value := do
  let (factor, v) ← splitSign (lowerString (text.replace "_" ""))
  let signed (x : Float) : Float := if factor < 0 then -x else x
  if v == ".inf" then return .float (signed infinity)
  else if v == ".nan" then return .shared Value.sharedNaNName (.float notANumber)
  else if v.toList.contains ':' then
    let places ← (v.splitOn ":").mapM floatOf
    let (total, _) ← places.reverse.foldlM (fun (acc : Float × Nat) d => do
      let weight ← match floatOfInt? acc.2 with
        | some w => pure w
        | none => throw (.value (.overflow "int too large to convert to float"))
      return (acc.1 + d * weight, acc.2 * 60)) (0.0, 1)
    return .float (signed total)
  else return .float (signed (← floatOf v))

/-- The value of a base64 letter. -/
def base64Value (c : Char) : Option Nat :=
  if 'A' ≤ c && c ≤ 'Z' then some (c.toNat - 'A'.toNat)
  else if 'a' ≤ c && c ≤ 'z' then some (c.toNat - 'a'.toNat + 26)
  else if '0' ≤ c && c ≤ '9' then some (c.toNat - '0'.toNat + 52)
  else if c == '+' then some 62
  else if c == '/' then some 63
  else none

/-- Decodes base64 leniently: other characters are skipped, and padding after two or three
letters of a group ends the data. Gives the bytes, or the reason they cannot be decoded. -/
def decodeBase64 (cs : List Char) : Except String (List Nat) :=
  let rec go : List Char → Nat → Nat → Nat → List Nat → Except String (List Nat)
    | [], pos, _, _, out =>
      if pos == 0 then .ok out.reverse
      else if pos == 1 then
        .error ("Invalid base64-encoded string: number of data characters (" ++
          natText (out.length / 3 * 4 + 1) ++ ") cannot be 1 more than a multiple of 4")
      else .error "Incorrect padding"
    | c :: rest, pos, left, pads, out =>
      if c == '=' then
        if pos ≥ 2 && pos + pads + 1 ≥ 4 then .ok out.reverse
        else go rest pos left (if pos ≥ 2 then pads + 1 else pads) out
      else
        match base64Value c with
        | none => go rest pos left pads out
        | some v =>
          match pos with
          | 0 => go rest 1 v 0 out
          | 1 => go rest 2 (v % 16) 0 ((left * 4 + v / 16) :: out)
          | 2 => go rest 3 (v % 4) 0 ((left * 16 + v / 4) :: out)
          | _ => go rest 0 0 0 ((left * 64 + v) :: out)
  go cs 0 0 0 []

/-- The message of a text that is not ASCII: the first run of other characters. -/
def asciiMessage (cs : List Char) : Option String :=
  match cs.findIdx? (·.toNat ≥ 128) with
  | none => none
  | some i =>
    let run := ((cs.drop i).takeWhile (·.toNat ≥ 128)).length
    let head :=
      if run == 1 then
        let n := (cs.getD i ' ').toNat
        let digits :=
          if n ≤ 0xff then "\\x" ++ hexAtLeast 2 n
          else if n ≤ 0xffff then "\\u" ++ hexAtLeast 4 n
          else "\\U" ++ hexAtLeast 8 n
        "character '" ++ digits ++ "' in position " ++ natText i
      else "characters in position " ++ natText i ++ "-" ++ natText (i + run - 1)
    some ("'ascii' codec can't encode " ++ head ++ ": ordinal not in range(128)")

/-- Builds bytes from base64 text. -/
def buildBinary (text : String) (at_ : Mark) : Except LoadFault Value :=
  match asciiMessage text.toList with
  | some m => .error (nodeFault ("failed to convert base64 data into ascii: " ++ m) at_)
  | none =>
    match decodeBase64 text.toList with
    | .ok bs => .ok (.bytes bs)
    | .error m => .error (nodeFault ("failed to decode base64 data: " ++ m) at_)

/-- The parts of a timestamp text. -/
structure StampParts where
  /-- The year's four digits. -/
  year : String
  /-- The month's digits. -/
  month : String
  /-- The day's digits. -/
  day : String
  /-- The time of day: hour, minute, second and fraction digits. -/
  time : Option (String × String × String × String)
  /-- The zone: `Z`, or a sign, hours and minutes. -/
  zone : Option (Option (Char × String × String))
  deriving Inhabited

/-- Takes one or two digits, as many as there are. -/
def takeDigits12 (cs : List Char) : Option (String × List Char) :=
  match cs with
  | a :: b :: rest =>
    if digit a && digit b then some (String.ofList [a, b], rest)
    else if digit a then some (String.ofList [a], b :: rest)
    else none
  | [a] => if digit a then some (String.ofList [a], []) else none
  | [] => none

/-- Takes exactly `n` digits. -/
def takeDigits (n : Nat) (cs : List Char) : Option (String × List Char) :=
  let ds := cs.take n
  if ds.length == n && ds.all digit then some (String.ofList ds, cs.drop n) else none

/-- Whether a text is at its end, or at a line feed ending it. -/
def atEnd (cs : List Char) : Bool := cs.isEmpty || cs == ['\n']

/-- Reads the zone of a timestamp after optional blanks: `Z`, or a sign, one or two digits of
hours and optional minutes. -/
def readZone (cs : List Char) : Option (Option (Char × String × String)) :=
  let cs := cs.dropWhile fun c => c == ' ' || c == '\t'
  match cs with
  | 'Z' :: rest => if atEnd rest then some none else none
  | s :: rest =>
    if s == '-' || s == '+' then do
      let (h, rest) ← takeDigits12 rest
      match rest with
      | ':' :: more =>
        let (m, more) ← takeDigits 2 more
        if atEnd more then some (some (s, h, m)) else none
      | _ => if atEnd rest then some (some (s, h, "")) else none
    else none
  | [] => none

/-- Reads the time of a timestamp after its date. -/
def readTime (cs : List Char) :
    Option ((String × String × String × String) × Option (Option (Char × String × String))) := do
  let cs ← match cs with
    | c :: rest =>
      if c == 'T' || c == 't' then some rest
      else if c == ' ' || c == '\t' then some (rest.dropWhile fun c => c == ' ' || c == '\t')
      else none
    | [] => none
  let (h, cs) ← takeDigits12 cs
  let cs ← match cs with | ':' :: r => some r | _ => none
  let (m, cs) ← takeDigits 2 cs
  let cs ← match cs with | ':' :: r => some r | _ => none
  let (s, cs) ← takeDigits 2 cs
  let (frac, cs) := match cs with
    | '.' :: r => (String.ofList (r.takeWhile digit), r.dropWhile digit)
    | r => ("", r)
  if atEnd cs then return ((h, m, s, frac), none)
  let z ← readZone cs
  return ((h, m, s, frac), some z)

/-- Reads a timestamp text into its parts. -/
def readStamp (text : String) : Option StampParts := do
  let (y, cs) ← takeDigits 4 text.toList
  let cs ← match cs with | '-' :: r => some r | _ => none
  let (mo, cs) ← takeDigits12 cs
  let cs ← match cs with | '-' :: r => some r | _ => none
  let (d, cs) ← takeDigits12 cs
  if atEnd cs then return ⟨y, mo, d, none, none⟩
  let (t, z) ← readTime cs
  return ⟨y, mo, d, some t, z⟩

/-- The value of ASCII digits. -/
def digitsNat (s : String) : Nat := digitsValue s.toList

/-- Whether a year is a leap year. -/
def isLeapYear (y : Nat) : Bool := y % 4 == 0 && (y % 100 != 0 || y % 400 == 0)

/-- The number of days of a month. -/
def daysInMonth (y m : Nat) : Nat :=
  if m == 2 then (if isLeapYear y then 29 else 28)
  else if m == 4 || m == 6 || m == 9 || m == 11 then 30 else 31

/-- Checks a calendar date. -/
def checkDate (y m d : Nat) : Except LoadFault Unit :=
  if y < 1 || y > 9999 then
    .error (.value (.badContent ("year " ++ natText y ++ " is out of range")))
  else if m < 1 || m > 12 then .error (.value (.badContent "month must be in 1..12"))
  else if d < 1 || d > daysInMonth y m then
    .error (.value (.badContent "day is out of range for month"))
  else .ok ()

/-- The text of a duration of whole seconds, as its constructor shows it. -/
def durationLiteral (secs : Int) : String :=
  let days := secs.fdiv 86400
  let rest := secs.fmod 86400
  let parts := (if days == 0 then [] else ["days=" ++ intText days]) ++
    (if rest == 0 then [] else ["seconds=" ++ intText rest])
  "datetime.timedelta(" ++ ", ".intercalate parts ++ ")"

/-- Builds a date or a timestamp. -/
def buildTimestamp (text : String) : Except LoadFault Value := do
  let some p := readStamp text
    | throw (.value (.noAttribute "'NoneType' object has no attribute 'groupdict'"))
  let y := digitsNat p.year
  let m := digitsNat p.month
  let d := digitsNat p.day
  match p.time with
  | none =>
    checkDate y m d
    return .date y m d
  | some (h, mi, s, frac) =>
    let sixDigits := frac.toList.take 6 ++ List.replicate (6 - frac.length) '0'
    let micro := digitsNat (String.ofList sixDigits)
    let offset : Option Int ←
      match p.zone with
      | some (some (sgn, zh, zm)) =>
        let secs : Int := (digitsNat zh * 3600 + digitsNat zm * 60 : Nat)
        let secs := if sgn == '-' then -secs else secs
        if secs ≤ -86400 || secs ≥ 86400 then
          throw (.value (.badContent ("offset must be a timedelta strictly between " ++
            "-timedelta(hours=24) and timedelta(hours=24), not " ++ durationLiteral secs ++ ".")))
        pure (some secs)
      | some none => pure (some 0)
      | none => pure none
    checkDate y m d
    let (hh, mm, ss) := (digitsNat h, digitsNat mi, digitsNat s)
    if hh > 23 then throw (.value (.badContent "hour must be in 0..23"))
    if mm > 59 then throw (.value (.badContent "minute must be in 0..59"))
    if ss > 59 then throw (.value (.badContent "second must be in 0..59"))
    return .timestamp ⟨y, m, d, hh, mm, ss, micro, offset⟩

/-- The text of a scalar node; another node is an error. -/
def scalarText (n : Node) : Except LoadFault String :=
  match n.body with
  | .scalar s => .ok s
  | _ => .error (nodeFault ("expected a scalar node, but found " ++ n.id) n.start)

/-- Builds the value of a node whose builder makes scalars. -/
def buildScalar (n : Node) : Builder → Except LoadFault Value
  | .null => do
    discard (scalarText n)
    return .none
  | .bool => do
    let s := lowerString (← scalarText n)
    match boolWord s with
    | some b => return .bool b
    | none => throw (.value (.missingKey (quote s)))
  | .int => do buildInt (← scalarText n)
  | .float => do buildFloat (← scalarText n)
  | .binary => do buildBinary (← scalarText n) n.start
  | .timestamp => do buildTimestamp (← scalarText n)
  | .str => do return .str (← scalarText n)
  | _ =>
    .error (nodeFault ("could not determine a constructor for the tag " ++ quote n.tag) n.start)

/-! ## Merge keys -/

/-- The node at a place. -/
def nodeAt (nodes : Array Node) (i : Nat) : Node := nodes.getD i default

/-- The pairs of a mapping node; none for another node. -/
def pairsOf (n : Node) : List (Nat × Nat) :=
  match n.body with
  | .mapping ps => ps
  | _ => []

/-- The largest number of steps an expansion takes over one mapping. -/
def mergeSteps : Nat := 1000000

mutual
/-- Expands the merge keys of the mapping at `i` in place, and those of the mappings it merges.
Each merge pair is taken out when met and its mapping (or each mapping of its list) expanded in
turn, their pairs being gathered, those of later mappings of a list first; at the end the
gathered pairs are put in front of what is left. -/
def flatten : Nat → Array Node → Nat → Except LoadFault (Array Node)
  | 0, nodes, _ => .ok nodes
  | fuel + 1, nodes, i => do
    let .mapping _ := (nodeAt nodes i).body | return nodes
    let (nodes, merged) ← flattenFrom fuel nodes i mergeSteps 0 []
    if merged.isEmpty then return nodes
    return nodes.modify i fun m => { m with body := .mapping (merged ++ pairsOf m) }
  termination_by fuel => (fuel, 0, 0)

/-- Goes on expanding the mapping at `i` from the pair at `index`, the pairs gathered so far
being `merged`. The pairs are read afresh at each step: expanding a merged mapping changes this
one when the two are the same. -/
def flattenFrom (fuel : Nat) (nodes : Array Node) (i : Nat) :
    (steps index : Nat) → List (Nat × Nat) → Except LoadFault (Array Node × List (Nat × Nat))
  | 0, _, merged => .ok (nodes, merged)
  | steps + 1, index, merged =>
    let n := nodeAt nodes i
    let pairs := pairsOf n
    match pairs[index]? with
    | none => .ok (nodes, merged)
    | some (k, v) =>
      let key := nodeAt nodes k
      if key.tag == standardTag "merge" then
        let nodes := nodes.modify i fun m => { m with body := .mapping (pairs.eraseIdx index) }
        let value := nodeAt nodes v
        match value.body with
        | .mapping _ => do
          let nodes ← flatten fuel nodes v
          flattenFrom fuel nodes i steps index (merged ++ pairsOf (nodeAt nodes v))
        | .sequence items => do
          let (nodes, sub) ← items.foldlM (fun (acc : Array Node × List (List (Nat × Nat))) s => do
            let sn := nodeAt acc.1 s
            let .mapping _ := sn.body
              | throw (mappingFault "while constructing a mapping" n.start
                  ("expected a mapping for merging, but found " ++ sn.id) sn.start)
            let nodes ← flatten fuel acc.1 s
            return (nodes, acc.2 ++ [pairsOf (nodeAt nodes s)])) (nodes, [])
          flattenFrom fuel nodes i steps index (merged ++ sub.reverse.flatten)
        | .scalar _ =>
          .error (mappingFault "while constructing a mapping" n.start
            ("expected a mapping or list of mappings for merging, but found " ++ value.id)
            value.start)
      else
        let nodes := if key.tag == standardTag "value" then
          nodes.modify k fun kn => { kn with tag := standardTag "str" } else nodes
        flattenFrom fuel nodes i steps (index + 1) merged
  termination_by steps => (fuel, 1, steps)
end

/-! ## Finding the first fault -/

/-- The state of the search for the first fault: the nodes (merge keys expanded as they are
met), the collections whose contents are due, and the collections already made. -/
structure Search where
  /-- The nodes. -/
  nodes : Array Node
  /-- The collections made in this round, whose contents are due in the next. -/
  due : List Nat := []
  /-- The nodes already made. -/
  made : List Nat := []
  deriving Inhabited

/-- Makes a node as a child is made: a scalar is built, a collection is made empty and its
contents put off. Gives whether the result is hashable. -/
def Search.make (s : Search) (i : Nat) : Except LoadFault (Search × Bool) := do
  let n := nodeAt s.nodes i
  let b := builderOf n.tag
  if b.isCollection then
    if s.made.contains i then return (s, false)
    return ({ s with due := s.due ++ [i], made := i :: s.made }, false)
  discard (buildScalar n b)
  return (s, true)

/-- Adds the contents of a collection made earlier, making its children in order. -/
def Search.fill (s : Search) (i : Nat) : Except LoadFault Search := do
  let n := nodeAt s.nodes i
  let b := builderOf n.tag
  match b with
  | .seq =>
    let .sequence items := n.body
      | throw (nodeFault ("expected a sequence node, but found " ++ n.id) n.start)
    items.foldlM (fun s c => return (← s.make c).1) s
  | .map | .set =>
    let nodes ← flatten (s.nodes.size + 1) s.nodes i
    let s := { s with nodes := nodes }
    let n := nodeAt nodes i
    let .mapping pairs := n.body
      | throw (nodeFault ("expected a mapping node, but found " ++ n.id) n.start)
    pairs.foldlM (fun s (k, v) => do
      let (s, hashable) ← s.make k
      if !hashable then
        throw (mappingFault "while constructing a mapping" n.start "found unhashable key"
          (nodeAt s.nodes k).start)
      return (← s.make v).1) s
  | .omap | .pairs =>
    let context := if b == .omap then "while constructing an ordered map"
      else "while constructing pairs"
    let .sequence items := n.body
      | throw (mappingFault context n.start ("expected a sequence, but found " ++ n.id) n.start)
    items.foldlM (fun s c => do
      let cn := nodeAt s.nodes c
      match cn.body with
      | .mapping [(k, v)] =>
        let (s, _) ← s.make k
        return (← s.make v).1
      | .mapping ps =>
        throw (mappingFault context n.start
          ("expected a single mapping item, but found " ++ natText ps.length ++ " items") cn.start)
      | _ =>
        throw (mappingFault context n.start
          ("expected a mapping of length 1, but found " ++ cn.id) cn.start)) s
  | _ => return s

/-- Fills the due collections round by round, at most `fuel` rounds. -/
def Search.run : Nat → Search → Except LoadFault Search
  | 0, s => .ok s
  | fuel + 1, s =>
    if s.due.isEmpty then .ok s
    else do
      let round := s.due
      let s ← round.foldlM (fun s i => s.fill i) { s with due := [] }
      Search.run fuel s

/-- The first fault met building the document rooted at `root`, in building order; on success,
the nodes with their merge keys expanded. -/
def firstFault (nodes : Array Node) (root : Nat) : Except LoadFault (Array Node) := do
  let (s, _) ← ({ nodes } : Search).make root
  let s ← Search.run (nodes.size + 1) s
  return s.nodes

/-! ## Building values -/

/-- Sets a key of a dictionary: a new key is added at the end, an equal key keeps its place and
takes the new value. -/
def setEntry (kvs : List (Value × Value)) (k v : Value) : List (Value × Value) :=
  if kvs.any fun kv => Value.keyEq kv.1 k then
    kvs.map fun kv => if Value.keyEq kv.1 k then (kv.1, v) else kv
  else kvs ++ [(k, v)]

/-- Adds an item to a set unless an equal one is there. -/
def addMember (xs : List Value) (x : Value) : List Value :=
  if xs.any fun y => Value.keyEq y x then xs else xs ++ [x]

/-- The nodes a node refers to: the items of a sequence, the keys and values of a mapping. -/
def childrenOf (n : Node) : List Nat :=
  match n.body with
  | .sequence items => items
  | .mapping pairs => pairs.flatMap fun (k, v) => [k, v]
  | .scalar .. => []

/-- Whether every node is referred to at most once, and the root not at all: then the nodes form
a tree and none lies on a cycle. -/
def isTree (nodes : Array Node) (root : Nat) : Bool :=
  let counts := nodes.foldl (fun (acc : Array Nat) n =>
    (childrenOf n).foldl (fun acc j => acc.modify j (· + 1)) acc) (Array.replicate nodes.size 0)
  counts.all (· ≤ 1) && counts.getD root 0 == 0

/-- Whether node `i` can be reached from itself. Each round visits at least one node not seen
before, so as many rounds as there are nodes are enough. -/
def onCycle (nodes : Array Node) (i : Nat) : Bool :=
  go nodes.size [] (childrenOf (nodeAt nodes i))
where
  /-- Looks for `i` among the nodes `todo` and the nodes after them, `seen` being done. -/
  go : Nat → List Nat → List Nat → Bool
    | 0, _, _ => false
    | fuel + 1, seen, todo =>
      if todo.contains i then true
      else
        let fresh := (todo.filter fun j => !seen.contains j).eraseDups
        if fresh.isEmpty then false
        else go fuel (fresh ++ seen) (fresh.flatMap fun j => childrenOf (nodeAt nodes j))

/-- The name of the object built from node `i`. -/
def objectName (i : Nat) : Nat := 2 * i + 1

/-- The name of the pair an ordered map or a pair list builds from its item node `c`. -/
def pairName (c : Nat) : Nat := 2 * c + 2

/-- Builds the value of the node at `i`, faults having been ruled out. The object of a node on a
cycle is shared; `around` names the shared objects being built around this place, and meeting one
of them again gives `.cycle`. `fuel` bounds the depth: no node is met twice along a path without
being shared, so one more than the number of nodes is enough. -/
def build (nodes : Array Node) (cyclic : Nat → Bool) :
    Nat → List Nat → Nat → Except LoadFault Value
  | 0, _, _ => .error (.value (.badContent "maximum recursion depth exceeded"))
  | fuel + 1, around, i => do
    if around.contains (objectName i) then return .cycle (objectName i)
    let share := cyclic i
    let inner := if share then objectName i :: around else around
    let n := nodeAt nodes i
    let b := builderOf n.tag
    let body ← match b, n.body with
      | .seq, .sequence items => pure (.list (← items.mapM (build nodes cyclic fuel inner)))
      | .map, .mapping pairs => do
        let kvs ← pairs.foldlM (fun acc (k, v) => do
          return setEntry acc (← build nodes cyclic fuel inner k)
            (← build nodes cyclic fuel inner v)) []
        pure (.dict kvs)
      | .set, .mapping pairs => do
        let xs ← pairs.foldlM (fun acc (k, v) => do
          discard (build nodes cyclic fuel inner v)
          return addMember acc (← build nodes cyclic fuel inner k)) []
        pure (.set (setOrder xs))
      | .omap, .sequence items | .pairs, .sequence items => do
        let xs ← items.mapM fun c => do
          match (nodeAt nodes c).body with
          | .mapping [(k, v)] =>
            let shareItem := cyclic c
            let within := if shareItem then pairName c :: inner else inner
            let t := Value.tuple
              [← build nodes cyclic fuel within k, ← build nodes cyclic fuel within v]
            return if shareItem then .shared (pairName c) t else t
          | _ => return Value.none
        pure (.list xs)
      | _, _ => buildScalar n b
    return if share then .shared (objectName i) body else body

/-- Builds the value of a document. -/
def construct (doc : Document) : Except LoadFault Value := do
  let nodes ← firstFault doc.nodes doc.root
  let tree := isTree nodes doc.root
  build nodes (fun i => !tree && onCycle nodes i) (nodes.size + 1) [] doc.root

end AccessLog.Yaml

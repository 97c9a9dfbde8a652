import AccessLog.Regex.Parse
import AccessLog.Text.Blank
import AccessLog.Text.Case

/-!
# Patterns: matching

A compiled `Pattern` is matched by backtracking. The matcher keeps a stack of what remains to be
done (`Step`): a sequence of nodes, the end of a capturing group, or the next round of a
repetition. Choices are tried in order and a failure falls back to the last open choice.

An attempt shares one set of `Registers` between its steps: a text pointer, two marks per group
and the number of marks in use. A step that fails leaves them as it found them or as its last
try left them; only the steps that try again put marks back, and only those that must:

* **alternation** tries its branches in order, skipping one whose first node is a plain
  character or class that does not take the next character; a failed branch gives its marks
  back inside a repetition, and otherwise only forgets the marks it put in use;
* **repetition**: greedy tries one more round before leaving, lazy leaves before trying one
  more; a further optional round is not tried where the last one began, so an empty round ends
  the repetition. A run of one character is counted first and then walked back, never stopping
  where the next plain character cannot follow;
* **possessive repetition** takes each round by the first way its body matches and as many
  rounds as it can, giving none back; a round that fails gives back its marks, and the rest of
  the pattern goes on where that round left the pointer;
* **atomic groups and look-arounds** keep the first way their body matches; a positive
  look-around keeps its captures, and a negative one gives back what its failed body marked;
* **group references and conditionals** see a group only when both its marks are in use and
  set and its start does not lie past its end;
* **case**: under `ignoreCase` two characters match when their simple lowercases agree or are
  case variants; a class with a cased member tests the lowercase of the subject character;
* **search** tries the start positions from the left: every one, the end included, when the
  pattern begins with a character or a set of characters to scan for, and otherwise only those
  with room for the fewest characters a match takes. A text too short for that has no match,
  searched or matched whole; a **full match** must start at `0` and end at the end of the text.
  A well-behaved pattern loses nothing by these bounds; they matter only where a failed
  possessive round has moved the pointer back.

A finished attempt ends where the pointer stands, and reports each group from its marks; a group
whose end was marked before its start cannot be reported (`MatchFault`). A pattern compiled from a
byte string searches no text at all.

Depth is bounded by fuel. The bound an attempt is given (`matchFuel`) grows with the pattern: each
node costs a step, and a repetition costs its body once for each round it must take and once for
each place of the text where a further round may begin (`Node.cost`); that cost is then multiplied
by the square of the text's length. An attempt that runs out of fuel fails. The bound is shown to
be enough for the patterns written from archive entry globs; for other patterns it is a bound
chosen large, not one proved sufficient.
-/

namespace AccessLog.Regex

open AccessLog.Text

/-- A compiled pattern. -/
structure Pattern where
  /-- The pattern text. -/
  source : String
  /-- The nodes of the pattern. -/
  nodes : List Node
  /-- The number of capturing groups. -/
  groups : Nat
  /-- Named groups and their indices, in the order they were opened. -/
  names : List (String × Nat)
  /-- No two groups have one name. -/
  names_nodup : (names.map (·.1)).Nodup
  /-- The widths of all groups. -/
  widths : GroupWidths
  /-- Whether the pattern was compiled from a byte string, which cannot search a text. -/
  isBytes : Bool := false

instance : Inhabited Pattern :=
  ⟨{ source := "", nodes := [], groups := 0, names := [], names_nodup := List.nodup_nil,
     widths := [] }⟩

/-- Spans of groups: `(start, end)` of each group that took part, by index (`0` unused). -/
abbrev Captures := Array (Option (Nat × Nat))

/-- What remains to be done after the current node. -/
inductive Step where
  /-- Match these nodes in order. -/
  | seq (nodes : List Node)
  /-- Mark the end of group `index`. -/
  | close (index : Nat)
  /-- Decide on another round of a repetition after `count` rounds; `last` is where the last
  optional round began, and `outer` tells whether an enclosing repetition is under way. -/
  | round (min : Nat) (max : Option Nat) (greed : Greed) (body : List Node) (count : Nat)
      (last : Option Nat) (outer : Bool)
  /-- Take another round of a possessive repetition after `count` rounds. A round starts where
  the registers' pointer stands; `guard` is where the last optional round began, and `entry`
  where the repetition began. -/
  | possess (min : Nat) (max : Option Nat) (body : List Node) (count : Nat) (guard : Option Nat)
      (entry : Nat)
  /-- Succeed only at position `target`. -/
  | endAt (target : Nat)

/-- The registers a match attempt shares between its steps: the text pointer where the last
step that moves it left it, two marks per group (where it starts and where it ends), and how
many marks are in use. Marks from `top` on count as unset. A step that fails leaves the
registers as they are; only the steps that try again put marks back. -/
structure Registers where
  /-- Where the last step that moves the pointer left it. -/
  ptr : Nat
  /-- The marks, two per group. -/
  marks : Array (Option Nat)
  /-- The number of marks in use. -/
  top : Nat
  deriving Inhabited

namespace Registers

/-- Sets mark `i` to `pos`; the marks passed over when the marks in use grow are unset. -/
def mark (r : Registers) (i pos : Nat) : Registers :=
  let marks := (List.range (i - r.top)).foldl (fun m d => m.set! (r.top + d) none) r.marks
  { r with marks := marks.set! i (some pos), top := max r.top (i + 1) }

/-- The marks in use, kept before an attempt that may have to be taken back. -/
def saved (r : Registers) : Array (Option Nat) := r.marks.extract 0 r.top

/-- Puts kept marks back, with the number of marks in use then. -/
def restore (r : Registers) (marks : Array (Option Nat)) (top : Nat) : Registers :=
  { r with marks := marks ++ r.marks.extract marks.size r.marks.size, top := top }

/-- The marks of group `i`, when both are in use and set. -/
def span? (r : Registers) (i : Nat) : Option (Nat × Nat) :=
  if 2 * i ≤ r.top then
    match r.marks[2 * i - 2]?, r.marks[2 * i - 1]? with
    | some (some s), some (some e) => some (s, e)
    | _, _ => none
  else none

end Registers

/-- Whether a character is a word character under the flags. -/
def wordChar (fl : Flags) (c : Char) : Bool :=
  if fl.ascii then isAsciiWordChar c else isWordChar c

/-- Whether a character belongs to a named class under the flags. -/
def inCategory (fl : Flags) (cat : Category) (c : Char) : Bool :=
  match cat with
  | .digit => if fl.ascii then '0' ≤ c && c ≤ '9' else isDecimal c
  | .space =>
    if fl.ascii then c == ' ' || c == '\t' || c == '\n' || c == '\r' || c == '\x0c' || c == '\x0b'
    else isBlank c
  | .word => wordChar fl c

/-- The lowercase used to compare characters under the flags. -/
def foldCase (fl : Flags) (c : Char) : Char :=
  if fl.ascii then (if c.toNat < 128 then c.toLower else c) else lowerChar c

/-- Whether a character has another case under the flags. -/
def hasCase (fl : Flags) (c : Char) : Bool :=
  if fl.ascii then c.toNat < 128 && c.isAlpha else isCased c

/-- The other lowercase characters equal to `c` when case is ignored. -/
def variantsOf (fl : Flags) (c : Char) : List Char :=
  if fl.ascii then [] else caseVariants c

/-- The first code point past the basic plane. -/
def astralStart : Nat := 0x10000

/-- Whether a class member makes the class compare characters by case: a character with another
case, a range holding one, or a member whose comparison form lies past the basic plane (its
comparison then takes another road, which always counts as cased). -/
def itemCased (fl : Flags) : ClassItem → Bool
  | .char c => astralStart ≤ (foldCase fl c).toNat || hasCase fl c
  | .range lo hi =>
    if astralStart ≤ hi.toNat then true
    else if fl.ascii then
      let a := lo.toNat
      let b := hi.toNat
      (a ≤ 'Z'.toNat && 'A'.toNat ≤ b) || (a ≤ 'z'.toNat && 'a'.toNat ≤ b)
    else casedBetween lo.toNat hi.toNat
  | .category .. | .nothing => false

/-- The characters whose comparison form is `y` (under the flags), `y` included when it is its
own comparison form. -/
def foldPreimage (fl : Flags) (y : Char) : List Char :=
  if fl.ascii then
    if 'a' ≤ y && y ≤ 'z' then [y, y.toUpper] else [y]
  else lowerPreimage y

/-- Whether `y` is the comparison form of a member of the item within the basic plane. -/
def foldedIn (fl : Flags) (y : Char) : ClassItem → Bool
  | .char c => (foldCase fl c).toNat < astralStart && foldCase fl c == y
  | .range lo hi =>
    (foldPreimage fl y).any fun c => lo ≤ c && c ≤ hi && c.toNat < astralStart
  | .category .. | .nothing => false

/-- Whether a class member past the basic plane takes the comparison form `y` of a subject
character: a character whose comparison form lies past the plane must equal `y` as written, and
a range reaching past the plane must hold `y` or its uppercase. -/
def astralIn (y : Char) : ClassItem → Bool
  | .char c => y == c
  | .range lo hi => (lo ≤ y && y ≤ hi) || (lo ≤ upperChar y && upperChar y ≤ hi)
  | .category .. | .nothing => false

/-- Whether a class member lies past the basic plane for the comparison. -/
def astralItem (fl : Flags) : ClassItem → Bool
  | .char c => astralStart ≤ (foldCase fl c).toNat
  | .range _ hi => astralStart ≤ hi.toNat
  | .category .. | .nothing => false

/-- Whether a character is a member of a class item, case as written. -/
def plainIn (fl : Flags) (x : Char) : ClassItem → Bool
  | .char c => x == c
  | .range lo hi => lo ≤ x && x ≤ hi
  | .category cat neg => inCategory fl cat x != neg
  | .nothing => false

/-- Whether a class (not yet negated) contains a character. When case is ignored and some member
is cased, the subject character is first brought to its comparison form `y`; a member within the
basic plane then holds `y` when `y` is (or is a case variant of) the comparison form of one of its
characters, a member reaching past the plane holds it as `astralIn` says, and a named class is
tested on `y`. -/
def classHas (fl : Flags) (items : List ClassItem) (x : Char) : Bool :=
  if !(fl.ignoreCase && items.any (itemCased fl)) then items.any (plainIn fl x)
  else
    let y := foldCase fl x
    items.any fun it =>
      match it with
      | .category cat neg => inCategory fl cat y != neg
      | _ =>
        foldedIn fl y it || (variantsOf fl y).any (fun e => foldedIn fl e it) ||
          (astralItem fl it && astralIn y it)

/-- Whether a subject character matches the character `c` of a pattern. -/
def charMatches (fl : Flags) (c x : Char) : Bool :=
  if !fl.ignoreCase || !hasCase fl c then x == c
  else
    let lo := foldCase fl c
    let lx := foldCase fl x
    lx == lo || (variantsOf fl lo).contains lx

/-- Whether a node that consumes exactly one character accepts `x`; `none` for other nodes. -/
def singleAccepts (n : Node) (x : Char) : Option Bool :=
  match n with
  | .char c neg fl => some (charMatches fl c x != neg)
  | .cls items neg fl => some (classHas fl items x != neg)
  | .any fl => some (fl.dotAll || x != '\n')
  | _ => none

/-- Whether an anchor holds at `pos` of `input`. -/
def anchorHolds (input : Array Char) (a : Anchor) (fl : Flags) (pos : Nat) : Bool :=
  let len := input.size
  match a with
  | .lineStart => pos == 0 || (fl.multiLine && input[pos - 1]? == some '\n' && 0 < pos)
  | .lineEnd =>
    if fl.multiLine then pos == len || input[pos]? == some '\n'
    else pos == len || (pos + 1 == len && input[pos]? == some '\n')
  | .textStart => pos == 0
  | .textEnd => pos == len
  | .boundary | .nonBoundary =>
    if len == 0 then false
    else
      let before := 0 < pos && (input[pos - 1]?.map (wordChar fl)).getD false
      let after := (input[pos]?.map (wordChar fl)).getD false
      if a == .boundary then before != after else before == after

/-- How many characters from `pos` on a one-character node accepts in a row, at most `limit`. -/
def countRun (input : Array Char) (n : Node) (pos : Nat) : Nat → Nat
  | 0 => 0
  | limit + 1 =>
    match input[pos]? with
    | some x => if singleAccepts n x == some true then countRun input n (pos + 1) limit + 1 else 0
    | none => 0

/-- Whether the text `input[start, stop)` occurs at `pos`, compared under the flags. -/
def sameText (input : Array Char) (fl : Flags) (start stop pos : Nat) : Bool :=
  let len := stop - start
  pos + len ≤ input.size && (List.range len).all fun i =>
    match input[start + i]?, input[pos + i]? with
    | some a, some b => if fl.ignoreCase then foldCase fl a == foldCase fl b else a == b
    | _, _ => false

/-- The character a node tests by plain equality, when it is compiled to such a test: a
character, not negated, compared as written. -/
def Node.plainLiteral? : Node → Option Char
  | .char c false fl => if !fl.ignoreCase || !hasCase fl c then some c else none
  | _ => none

/-- Whether a node is a class compared as written. -/
def Node.plainSet : Node → Bool
  | .cls items _ fl => !(fl.ignoreCase && items.any (itemCased fl))
  | _ => false

/-- Whether a run of a one-character node is counted by matching the node once per character,
which leaves the registers' pointer at the end of the run, rather than by a direct scan, which
leaves it where the run starts: so are the nodes compared through a class of case forms. -/
def Node.countsByMatching : Node → Bool
  | .char c _ fl => fl.ignoreCase && hasCase fl c && !(variantsOf fl (foldCase fl c)).isEmpty
  | .cls items _ fl => fl.ignoreCase && items.any (itemCased fl)
  | _ => false

/-- Whether an alternative surely fails at `pos` by its first node alone, which is checked
before it is tried: a plain character or plain class that does not take the character there. -/
def quickMiss (input : Array Char) (pos : Nat) : List Node → Bool
  | n :: _ =>
    if n.plainLiteral?.isSome || n.plainSet then
      match input[pos]? with
      | some x => singleAccepts n x != some true
      | none => true
    else false
  | [] => false

/-- Counts a run of a one-character node from `pos`, at most `limit` long, with the registers
as counting leaves them. -/
def countWith (input : Array Char) (n : Node) (pos limit : Nat) (r : Registers) :
    Nat × Registers :=
  let c := countRun input n pos limit
  (c, if n.countsByMatching then { r with ptr := pos + c } else r)

/-- Whether a repetition bounded by `max` allows a round after `count` rounds. -/
def roomFor (max : Option Nat) (count : Nat) : Bool :=
  match max with
  | some m => count < m
  | none => true

/-- Runs the steps from `pos` with the registers `r`; `rep` tells whether a repetition is under
way, which makes alternatives and runs keep the marks to put back. Gives whether the steps
finish, and the registers as the attempt left them, finished or not. -/
def run (input : Array Char) (gw : GroupWidths) :
    Nat → Bool → List Step → Nat → Registers → Bool × Registers
  | 0, _, _, _, r => (false, r)
  | _ + 1, _, [], pos, r => (true, { r with ptr := pos })
  | fuel + 1, rep, .seq [] :: k, pos, r => run input gw fuel rep k pos r
  | fuel + 1, rep, .endAt target :: k, pos, r =>
    if pos == target then run input gw fuel rep k pos r else (false, r)
  | fuel + 1, rep, .close i :: k, pos, r => run input gw fuel rep k pos (r.mark (2 * i - 1) pos)
  | fuel + 1, _, .round min max greed body count last outer :: k, pos, r =>
    let r := { r with ptr := pos }
    let again := fun (last : Option Nat) (r : Registers) =>
      run input gw fuel true
        (.seq body :: .round min max greed body (count + 1) last outer :: k) pos r
    if count < min then
      let (ok, r1) := again last r
      (ok, if ok then r1 else { r1 with ptr := pos })
    else
      match greed with
      | .lazy =>
        let (ok, r1) := run input gw fuel outer k pos r
        if ok then (true, r1)
        else
          let r1 := if outer then r1.restore r.saved r.top else { r1 with top := r.top }
          let r1 := { r1 with ptr := pos }
          if !roomFor max count || last == some pos then (false, r1)
          else
            let (ok, r2) := again (some pos) r1
            (ok, if ok then r2 else { r2 with ptr := pos })
      | _ =>
        let (ok, r1) :=
          if roomFor max count && last != some pos then
            let (ok, r1) := again (some pos) r
            if ok then (true, r1) else (false, { r1.restore r.saved r.top with ptr := pos })
          else (false, r)
        if ok then (true, r1)
        else
          let (ok, r2) := run input gw fuel outer k pos r1
          (ok, if ok then r2 else { r2 with ptr := pos })
  | fuel + 1, rep, .possess min max body count guard entry :: k, pos, r =>
    let start := r.ptr
    if count < min then
      let (ok, r1) := run input gw fuel rep [.seq body] start r
      if ok then run input gw fuel rep (.possess min max body (count + 1) guard entry :: k) pos r1
      else (false, { r1 with ptr := entry })
    else if roomFor max count && guard != some start then
      let (ok, r1) := run input gw fuel rep [.seq body] start r
      if ok then
        run input gw fuel rep (.possess min max body (count + 1) (some start) entry :: k) pos r1
      else
        -- a failed round gives its marks back, but the pointer stays where the round left it
        let r1 := r1.restore r.saved r.top
        run input gw fuel rep k r1.ptr r1
    else run input gw fuel rep k start r
  | fuel + 1, rep, .seq (n :: rest) :: k, pos, r =>
    let k := .seq rest :: k
    match n with
    | .char .. | .cls .. | .any _ =>
      match input[pos]? with
      | some x =>
        if singleAccepts n x == some true then run input gw fuel rep k (pos + 1) r else (false, r)
      | none => (false, r)
    | .anchor a fl => if anchorHolds input a fl pos then run input gw fuel rep k pos r else (false, r)
    | .alt branches =>
      let saved := r.saved
      let tryBranch := fun (acc : Bool × Registers) (b : List Node) =>
        if acc.1 || quickMiss input pos b then acc
        else
          let (ok, r1) := run input gw fuel rep (.seq b :: k) pos { acc.2 with ptr := pos }
          if ok then (true, r1)
          else (false, if rep then r1.restore saved r.top else { r1 with top := r.top })
      branches.foldl tryBranch (false, r)
    | .group i body =>
      run input gw fuel rep (.seq body :: .close i :: k) pos (r.mark (2 * i - 2) pos)
    | .rep min max greed body =>
      match body with
      | [single@(.char ..)] | [single@(.cls ..)] | [single@(.any _)] =>
        -- a run of one-character matches: count it, then walk back (or forward when lazy); a
        -- text too short for the least count fails before the pointer moves
        if input.size < pos + min then (false, r)
        else
          let r := { r with ptr := pos }
          match greed with
          | .possessive =>
            let (c, r) := countWith input single pos (max.getD input.size) r
            if c < min then (false, r) else run input gw fuel rep k (pos + c) r
          | .greedy =>
            let (avail, r) := countWith input single pos (max.getD input.size) r
            if avail < min then (false, r)
            else
              let saved := r.saved
              let next := rest.head?.bind Node.plainLiteral?
              let tryCount := fun (acc : Bool × Registers) (d : Nat) =>
                let c := avail - d
                let blocked := match next with
                  | some ch => input[pos + c]? != some ch
                  | none => false
                if acc.1 || blocked then acc
                else
                  let (ok, r1) := run input gw fuel rep k (pos + c) { acc.2 with ptr := pos + c }
                  if ok then (true, r1)
                  else (false, if rep then r1.restore saved r.top else { r1 with top := r.top })
              (List.range (avail - min + 1)).foldl tryCount (false, r)
          | .lazy =>
            let (c0, r) := if min == 0 then (0, r) else countWith input single pos min r
            if c0 < min then (false, r)
            else
              let saved := r.saved
              -- each step tries the tail after `min + d` rounds, then takes one more round
              let tryCount := fun (acc : Bool × Registers × Bool) (d : Nat) =>
                let c := min + d
                if acc.1 || acc.2.2 || !(roomFor max c || max == some c) then
                  (acc.1, acc.2.1, true)
                else
                  let (ok, r1) := run input gw fuel rep k (pos + c) { acc.2.1 with ptr := pos + c }
                  if ok then (true, r1, true)
                  else
                    let r1 := if rep then r1.restore saved r.top else { r1 with top := r.top }
                    let (more, r1) := countWith input single (pos + c) 1 { r1 with ptr := pos + c }
                    (false, r1, more == 0)
              let (ok, r, _) := (List.range (input.size - pos + 1)).foldl tryCount (false, r, false)
              (ok, r)
      | _ =>
        let r := { r with ptr := pos }
        match greed with
        | .possessive => run input gw fuel rep (.possess min max body 0 none pos :: k) pos r
        | _ => run input gw fuel true (.round min max greed body 0 none rep :: k) pos r
    | .backref i fl =>
      match r.span? i with
      | some (s, e) =>
        if s ≤ e && sameText input fl s e pos then run input gw fuel rep k (pos + (e - s)) r
        else (false, r)
      | none => (false, r)
    | .look behind neg body =>
      let back := if behind then (seqWidth gw body).lo else 0
      if pos < back then (if neg then run input gw fuel rep k pos r else (false, r))
      else
        let r0 := { r with ptr := pos - back }
        let (ok, r1) := run input gw fuel rep [.seq body] (pos - back) r0
        if !neg then (if ok then run input gw fuel rep k pos r1 else (false, r1))
        else if ok then (false, r1)
        else
          let r1 := if rep then r1.restore r0.saved r0.top else { r1 with top := r0.top }
          run input gw fuel rep k pos r1
    | .cond i yes no =>
      let taken : Bool := match r.span? i with
        | some (s, e) => decide (s ≤ e)
        | none => false
      run input gw fuel rep (.seq (if taken then yes else no) :: k) pos r
    | .atomic body =>
      let (ok, r1) := run input gw fuel rep [.seq body] pos { r with ptr := pos }
      if ok then run input gw fuel rep k r1.ptr r1 else (false, { r1 with ptr := pos })

/-- How a sequence begins, looking into groups: with a character compared as written
(`some true`), with anything else (`some false`), or not at all when it holds only empty groups
(`none`). -/
def leadLiteral : List Node → Option Bool
  | [] => none
  | .group _ body :: rest =>
    match leadLiteral body with
    | none => leadLiteral rest
    | some b => some b
  | n :: _ => some n.plainLiteral?.isSome

/-- Whether a class member holds a character with another case, as the scan for first characters
judges it: a range that reaches past the basic plane always counts as holding one. -/
def scanCased (fl : Flags) : ClassItem → Bool
  | .char c => hasCase fl c
  | .range lo hi =>
    if astralStart ≤ hi.toNat then true
    else if fl.ascii then
      let a := lo.toNat
      let b := hi.toNat
      (a ≤ 'Z'.toNat && 'A'.toNat ≤ b) || (a ≤ 'z'.toNat && 'a'.toNat ≤ b)
    else casedBetween lo.toNat hi.toNat
  | .category .. | .nothing => false

/-- Whether a node gives a set of first characters to scan for: a character compared as written,
a class whose members need no case comparison, or an alternation whose every branch starts with a
character compared as written. -/
def Node.scanSet : Node → Bool
  | .cls items _ fl => !fl.ignoreCase || !items.any (scanCased fl)
  | .alt bs => bs.all fun b =>
    match b with
    | n :: _ => n.plainLiteral?.isSome
    | [] => false
  | n => n.plainLiteral?.isSome

/-- Whether the first node of a sequence, looking into the groups it starts with, gives a set of
first characters to scan for. -/
def leadSet : List Node → Bool
  | .group _ body :: _ => leadSet body
  | n :: _ => n.scanSet
  | [] => false

/-- A successful match: the span of the whole match and of each group. -/
structure Match where
  /-- Where the match starts. -/
  start : Nat
  /-- Where the match ends. -/
  stop : Nat
  /-- The spans of the groups, by index. -/
  groups : Captures

/-- Why a search or match gives no answer. -/
inductive MatchFault where
  /-- A group's end was marked before its start, so the match found cannot be reported. -/
  | wrongSpan
  /-- A pattern compiled from a byte string was given a text. -/
  | bytesOnText
  deriving Repr, DecidableEq, Inhabited

mutual
/-- What a node may cost an attempt on a text of `n` characters: one step for the node, with its
parts; a repetition costs its body once for each round it must take and once for each place of
the text a further round may start from. -/
def Node.cost (n : Nat) : Node → Nat
  | .alt bs => altCost n bs + 1
  | .group _ body | .atomic body | .look _ _ body => seqCost n body + 2
  | .rep min _ _ body => (min + n + 2) * (seqCost n body + 2) + 1
  | .cond _ yes no => seqCost n yes + seqCost n no + 1
  | _ => 1

/-- What a sequence may cost: the costs of its nodes, and one step to finish it. -/
def seqCost (n : Nat) : List Node → Nat
  | [] => 1
  | x :: rest => x.cost n + seqCost n rest

/-- What the branches of an alternation may cost together. -/
def altCost (n : Nat) : List (List Node) → Nat
  | [] => 0
  | b :: bs => seqCost n b + altCost n bs
end

/-- The depth bound of one attempt of the nodes `nodes` on the text `input`: the cost of the
nodes, times the square of the text's length with room for what an attempt's bookkeeping adds. -/
def matchFuel (nodes : List Node) (input : Array Char) : Nat :=
  64 * (input.size + 16) * (input.size + 16) * seqCost input.size nodes + 100000

/-- The match that the registers of a finished attempt from `start` report: each group whose
marks are in use and set spans from its first mark to its second, which must not lie before. -/
def Match.ofRegisters (groups start : Nat) (r : Registers) : Except MatchFault Match := do
  let spans ← (List.range groups).mapM fun g =>
    match r.span? (g + 1) with
    | some (s, e) => if e < s then throw MatchFault.wrongSpan else pure (some (s, e))
    | none => pure none
  pure ⟨start, r.ptr, (none :: spans).toArray⟩

namespace Pattern

/-- The fewest characters a match takes: the least width of the pattern. -/
def least (p : Pattern) : Nat := (seqWidth p.widths p.nodes).lo

/-- The last start position a search tries in a text of `size` characters, which is at least
`p.least` long. A pattern that begins with a character or a set of characters to scan for is tried
wherever its first character is found; any other is tried only where `p.least - 1` characters
remain after the start. -/
def lastStart (p : Pattern) (size : Nat) : Nat :=
  if p.least ≤ 1 || leadLiteral p.nodes == some true || leadSet p.nodes then size
  else size - (p.least - 1)

/-- Tries a match starting exactly at `start`. -/
def matchAt (p : Pattern) (input : Array Char) (start : Nat) (whole : Bool) :
    Option (Except MatchFault Match) :=
  let r : Registers := ⟨start, Array.replicate (2 * p.groups) none, 0⟩
  let steps := if whole then [Step.seq p.nodes, .endAt input.size] else [Step.seq p.nodes]
  match run input p.widths (matchFuel p.nodes input) false steps start r with
  | (true, r) => some (Match.ofRegisters p.groups start r)
  | (false, _) => none

/-- The leftmost match anywhere in the text, trying the start positions up to `lastStart`; a text
shorter than `least` has none. -/
def searchChars (p : Pattern) (input : Array Char) : Except MatchFault (Option Match) :=
  if input.size < p.least then .ok none
  else
    match (List.range (p.lastStart input.size + 1)).findSome? fun start =>
        p.matchAt input start false with
    | some found => found.map some
    | none => .ok none

/-- The leftmost match anywhere in a string; a pattern of a byte string cannot search one. -/
def search (p : Pattern) (s : String) : Except MatchFault (Option Match) :=
  if p.isBytes then .error .bytesOnText else p.searchChars s.toList.toArray

/-- A match of the whole string; a pattern of a byte string cannot match one. -/
def fullMatch (p : Pattern) (s : String) : Except MatchFault (Option Match) :=
  let input := s.toList.toArray
  if p.isBytes then .error .bytesOnText
  else if input.size < p.least then .ok none
  else
    match p.matchAt input 0 true with
    | some found => found.map some
    | none => .ok none

/-- The names of the named groups in the order of their indices, which is the order the groups
are opened in. -/
def groupNames (p : Pattern) : List String := p.names.map (·.1)

end Pattern

/-- The text a group captured in a match of `s`, if the group took part. -/
def Match.group? (m : Match) (s : String) (i : Nat) : Option String :=
  match m.groups[i]? with
  | some (some (a, b)) => some (String.ofList ((s.toList.drop a).take (b - a)))
  | _ => none

end AccessLog.Regex

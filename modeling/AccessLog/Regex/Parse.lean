import AccessLog.Regex.Syntax
import AccessLog.Text.Word
import AccessLog.Text.Digit
import AccessLog.Text.Quoted
import AccessLog.Text.Identifier
import AccessLog.Text.CharName
import AccessLog.Number.Read

/-!
# Patterns: reading the text

The pattern text is read as a stream of *tokens*: a character, or a backslash with the
character after it. The reader always holds the next token, so a backslash at the very end is
refused as soon as the token before it is taken. A position in a message is the index of the
first character of the token in hand, less an offset that points back into what was read.

The grammar is the usual one of backtracking patterns: alternation `|`, groups `(...)`,
`(?:...)`, `(?P<name>...)`, `(?P=name)`, look-arounds `(?=...)`, `(?!...)`, `(?<=...)`,
`(?<!...)`, conditionals `(?(id)yes|no)`, atomic groups `(?>...)`, comments `(?#...)`, inline
flags `(?aiLmstux)` (only at the very start) and `(?aiLmsux-imsx:...)`, repetitions `*`, `+`,
`?`, `{m,n}` with a lazy `?` or possessive `+` suffix, classes `[...]`, escapes, `.`, `^`, `$`.

An escape `\uXXXX` or `\UXXXXXXXX` may name a surrogate code point, which no character has: it
matches nothing, and as an end of a class range it counts by its code, the range holding the
characters between the ends.

An alternation is read into its simplest form: the nodes that every branch begins with alike
are taken out in front, and when what is left of each branch is one character or class, the
branches become one class. Groups may nest only so deep (`readDepthLimit`).

Reading is bounded by fuel equal to the length of the text: every step of every loop and every
nested group takes a token, so that much fuel is never exhausted.
-/

namespace AccessLog.Regex

open AccessLog.Text

/-- A token of pattern text. -/
inductive Token where
  /-- One character. -/
  | plain (c : Char)
  /-- A backslash and the character after it. -/
  | escaped (c : Char)
  deriving Repr, DecidableEq, Inhabited

namespace Token

/-- The number of pattern characters a token spans. -/
def length : Token → Nat
  | .plain _ => 1
  | .escaped _ => 2

/-- The text of a token as written. -/
def text : Token → String
  | .plain c => String.singleton c
  | .escaped c => "\\" ++ String.singleton c

/-- Whether a token is the plain character `c`. -/
def isChar (c : Char) : Token → Bool
  | .plain d => c == d
  | .escaped _ => false

end Token

/-- The width of an optional token. -/
def tokenLength : Option Token → Nat
  | some t => t.length
  | none => 0

/-- Whether an optional token is a plain character satisfying `p`. -/
def tokenIs (p : Char → Bool) : Option Token → Bool
  | some (.plain c) => p c
  | _ => false

/-- The state of reading a pattern. -/
structure ReadState where
  /-- The pattern text. -/
  src : Array Char
  /-- The index just after the token in hand. -/
  index : Nat
  /-- The token in hand, `none` at the end. -/
  next : Option Token
  /-- Flags set for the whole pattern. -/
  flags : Flags
  /-- The number of groups opened so far, plus one. -/
  groups : Nat
  /-- Group names and their indices. -/
  names : List (String × Nat)
  /-- No two groups have one name. -/
  names_nodup : (names.map (·.1)).Nodup
  /-- The widths of the groups closed so far. -/
  closed : GroupWidths
  /-- While inside a look-behind: the group count when it began. -/
  lookbehindGroups : Option Nat
  /-- Positions of numeric conditional references, to be checked at the end. -/
  condRefs : List (Nat × Nat)
  /-- Whether the pattern is a byte string, read as the characters of its bytes. -/
  bytes : Bool := false

/-- Reading with a state and a possible refusal. -/
abbrev ReadM := StateT ReadState (Except CompileError)

/-- Refuses the pattern with a message at a known position. -/
def refuseAt {α : Type} (msg : String) (pos : Nat) : ReadM α :=
  throw (.malformed ⟨msg, some pos⟩)

/-- The position of the token in hand. -/
def tell : ReadM Nat := do
  let s ← get
  pure (s.index - tokenLength s.next)

/-- Refuses the pattern at the token in hand, less `offset`. -/
def refuse {α : Type} (msg : String) (offset : Nat := 0) : ReadM α := do
  let p ← tell
  refuseAt msg (p - offset)

/-- Moves to the next token. -/
def advance : ReadM Unit := do
  let s ← get
  match s.src[s.index]? with
  | none => set { s with next := none }
  | some '\\' =>
    match s.src[s.index + 1]? with
    | some c => set { s with index := s.index + 2, next := some (.escaped c) }
    | none => refuseAt "bad escape (end of pattern)" (s.src.size - 1)
  | some c => set { s with index := s.index + 1, next := some (.plain c) }

/-- The token in hand. -/
def peek : ReadM (Option Token) := do
  pure (← get).next

/-- Takes the token in hand. -/
def take : ReadM (Option Token) := do
  let t ← peek
  advance
  pure t

/-- Takes the token in hand if it is the plain character `c`. -/
def accept (c : Char) : ReadM Bool := do
  if tokenIs (· == c) (← peek) then
    advance
    pure true
  else pure false

/-- Takes up to `n` plain tokens satisfying `p`. -/
def takeWhile (p : Char → Bool) : Nat → ReadM String
  | 0 => pure ""
  | n + 1 => do
    match ← peek with
    | some (.plain c) =>
      if p c then
        advance
        pure (String.singleton c ++ (← takeWhile p n))
      else pure ""
    | _ => pure ""

/-- Reads a name up to `term`; the name must not be empty. -/
def takeUntil (term : Char) (what : String) (fuel : Nat) : ReadM String :=
  go fuel ""
where
  go : Nat → String → ReadM String
    | 0, acc => pure acc
    | fuel + 1, acc => do
      let t ← take
      match t with
      | none =>
        if acc.isEmpty then refuse ("missing " ++ what)
        else refuse ("missing " ++ String.singleton term ++ ", unterminated name") acc.length
      | some tok =>
        if tok.isChar term then
          if acc.isEmpty then refuse ("missing " ++ what) 1 else pure acc
        else go fuel (acc ++ tok.text)

/-- Refuses a group name that is not an identifier. -/
def checkName (name : String) (offset : Nat) : ReadM Unit := do
  if !isIdentifier name then
    refuse ("bad character in group name " ++ quote name) (name.length + offset)

/-- Whether group `gid` exists and is closed. -/
def groupClosed (gid : Nat) : ReadM Bool := do
  let s ← get
  pure (gid < s.groups && (s.closed.find? (·.1 == gid)).isSome)

/-- Inside a look-behind, refuses a reference to an open group or to one of its own. -/
def checkLookbehindRef (gid : Nat) : ReadM Unit := do
  let s ← get
  match s.lookbehindGroups with
  | none => pure ()
  | some start =>
    if !(← groupClosed gid) then refuse "cannot refer to an open group"
    else if start ≤ gid then
      refuse "cannot refer to group defined in the same lookbehind subpattern"

/-- A flag letter and what it sets. -/
def flagOf : Char → Option Flags
  | 'i' => some { ignoreCase := true }
  | 'L' => some { locale := true }
  | 'm' => some { multiLine := true }
  | 's' => some { dotAll := true }
  | 'x' => some { verbose := true }
  | 'a' => some { ascii := true }
  | 't' => some { template := true }
  | 'u' => some { unicode := true }
  | _ => none

/-- Whether a character is a flag letter. -/
def isFlagChar (c : Char) : Bool := (flagOf c).isSome

/-- The union of two flag sets. -/
def Flags.union (a b : Flags) : Flags :=
  { ignoreCase := a.ignoreCase || b.ignoreCase, multiLine := a.multiLine || b.multiLine,
    dotAll := a.dotAll || b.dotAll, verbose := a.verbose || b.verbose,
    ascii := a.ascii || b.ascii, unicode := a.unicode || b.unicode,
    locale := a.locale || b.locale, template := a.template || b.template }

/-- The flags of `a` that are not in `b`. -/
def Flags.without (a b : Flags) : Flags :=
  { ignoreCase := a.ignoreCase && !b.ignoreCase, multiLine := a.multiLine && !b.multiLine,
    dotAll := a.dotAll && !b.dotAll, verbose := a.verbose && !b.verbose,
    ascii := a.ascii && !b.ascii, unicode := a.unicode && !b.unicode,
    locale := a.locale && !b.locale, template := a.template && !b.template }

/-- Whether a flag set is empty. -/
def Flags.isEmpty (a : Flags) : Bool :=
  !(a.ignoreCase || a.multiLine || a.dotAll || a.verbose || a.ascii || a.unicode || a.locale ||
    a.template)

/-- Whether two flag sets share a flag. -/
def Flags.meets (a b : Flags) : Bool := !(Flags.isEmpty (a.without (a.without b)))

/-- The type flags set, of `ascii`, `unicode` and `locale`: at most one may be set at once. -/
def Flags.typeFlags (a : Flags) : List Bool := [a.ascii, a.unicode, a.locale].filter id

/-- Scoped flags: `add` set and `del` cleared on top of `base`; a type flag in `add` replaces
the type flags of `base`. -/
def Flags.scope (base add del : Flags) : Flags :=
  let base := if add.ascii || add.unicode || add.locale then
      { base with ascii := false, unicode := false, locale := false }
    else base
  (base.union add).without del

/-- A change of flags made by an enclosing group. -/
abbrev FlagScope := List (Flags × Flags)

/-- The flags in force under the enclosing scopes. -/
def currentFlags (scopes : FlagScope) : ReadM Flags := do
  pure (scopes.foldl (fun f (a, d) => Flags.scope f a d) (← get).flags)

/-- The result of reading inline flags: set for the whole pattern, or scoped to a group. -/
inductive FlagRead where
  /-- `(?flags)`: flags for the whole pattern. -/
  | whole (add : Flags)
  /-- `(?flags-flags:...)`: flags added and removed for a group. -/
  | scoped (add del : Flags)

/-- Reads the flags to add, the first letter `c` already taken, up to `)`, `-` or `:`. -/
def readAddFlags : Nat → Char → Flags → ReadM (Char × Flags)
  | 0, c, acc => pure (c, acc)
  | n + 1, c, acc => do
    let bytes := (← get).bytes
    if c == 'L' && !bytes then refuse "bad inline flags: cannot use 'L' flag with a str pattern"
    if c == 'u' && bytes then refuse "bad inline flags: cannot use 'u' flag with a bytes pattern"
    let acc := acc.union ((flagOf c).getD {})
    if (c == 'a' || c == 'u' || c == 'L') && acc.typeFlags.length > 1 then
      refuse "bad inline flags: flags 'a', 'u' and 'L' are incompatible"
    match ← take with
    | none => refuse "missing -, : or )"
    | some (.plain d) =>
      if d == ')' || d == '-' || d == ':' then pure (d, acc)
      else if isFlagChar d then readAddFlags n d acc
      else refuse (if d.isAlpha then "unknown flag" else "missing -, : or )") 1
    | some (.escaped _) => refuse "missing -, : or )" 2

/-- Reads the flags to remove, the first letter `c` already taken, up to `:`. -/
def readDelFlags : Nat → Char → Flags → ReadM Flags
  | 0, _, acc => pure acc
  | n + 1, c, acc => do
    if c == 'a' || c == 'u' || c == 'L' then
      refuse "bad inline flags: cannot turn off flags 'a', 'u' and 'L'"
    let acc := acc.union ((flagOf c).getD {})
    match ← take with
    | none => refuse "missing :"
    | some (.plain d) =>
      if d == ':' then pure acc
      else if isFlagChar d then readDelFlags n d acc
      else refuse (if d.isAlpha then "unknown flag" else "missing :") 1
    | some (.escaped _) => refuse "missing :" 2

/-- Reads inline flags after `(?`, the first character already taken. -/
def readFlags (first : Char) (fuel : Nat) : ReadM FlagRead := do
  let (c, add) ← if first == '-' then pure ('-', ({} : Flags)) else readAddFlags fuel first {}
  if c == ')' then return .whole add
  if add.template then refuse "bad inline flags: cannot turn on global flag" 1
  let del ← if c == '-' then do
      match ← take with
      | none => refuse "missing flag"
      | some (.plain d) =>
        if isFlagChar d then readDelFlags fuel d {}
        else refuse (if d.isAlpha then "unknown flag" else "missing flag") 1
      | some (.escaped _) => refuse "missing flag" 2
    else pure {}
  if del.template then refuse "bad inline flags: cannot turn off global flag" 1
  if add.meets del then refuse "bad inline flags: flag turned on and off" 1
  pure (.scoped add del)

/-- The value of a hexadecimal numeral. -/
def hexValue (s : String) : Nat := readHex s

/-- The value of an octal numeral. -/
def octValue (s : String) : Nat := s.foldl (fun n c => n * 8 + (c.toNat - '0'.toNat)) 0

/-- Whether a character is an ASCII hexadecimal digit. -/
def isHexChar (c : Char) : Bool :=
  ('0' ≤ c && c ≤ '9') || ('a' ≤ c && c ≤ 'f') || ('A' ≤ c && c ≤ 'F')

/-- Whether a character is an octal digit. -/
def isOctChar (c : Char) : Bool := '0' ≤ c && c ≤ '7'

/-- Whether a character is an ASCII digit. -/
def isDigitChar (c : Char) : Bool := '0' ≤ c && c ≤ '9'

/-- Whether a character is an ASCII letter. -/
def isAsciiLetter (c : Char) : Bool := c.toNat < 128 && c.isAlpha

/-- The character of a code point, when it is one. -/
def charOfCode? (n : Nat) : Option Char :=
  if n.isValidChar then some (Char.ofNat n) else none

/-- What an escape reads as. -/
inductive Escaped where
  /-- One character. -/
  | char (c : Char)
  /-- A named class, or its complement. -/
  | category (cat : Category) (neg : Bool)
  /-- An anchor. -/
  | anchor (a : Anchor)
  /-- A back-reference to a group. -/
  | backref (gid : Nat)
  /-- A surrogate code point: no character has it. -/
  | surrogate (code : Nat)

/-- The character escapes shared by classes and sequences. -/
def simpleEscape : Char → Option Char
  | 'a' => some '\x07'
  | 'f' => some '\x0c'
  | 'n' => some '\n'
  | 'r' => some '\r'
  | 't' => some '\t'
  | 'v' => some '\x0b'
  | '\\' => some '\\'
  | _ => none

/-- The class escapes `\d \D \s \S \w \W`. -/
def categoryEscape : Char → Option (Category × Bool)
  | 'd' => some (.digit, false)
  | 'D' => some (.digit, true)
  | 's' => some (.space, false)
  | 'S' => some (.space, true)
  | 'w' => some (.word, false)
  | 'W' => some (.word, true)
  | _ => none

/-- Reads the digits of `\x`, `\u` or `\U` and the character they name. -/
def readCodeEscape (letter : Char) (count : Nat) : ReadM Escaped := do
  let ds ← takeWhile isHexChar count
  let esc := "\\" ++ String.singleton letter ++ ds
  if ds.length != count then refuse ("incomplete escape " ++ esc) esc.length
  let v := hexValue ds
  if 0xd800 ≤ v && v ≤ 0xdfff then return .surrogate v
  match charOfCode? v with
  | some c => pure (.char c)
  | none => refuse ("bad escape " ++ esc) esc.length

/-- Reads `\N{...}`, the character of a name. -/
def readNamedEscape (fuel : Nat) : ReadM Escaped := do
  if !(← accept '{') then refuse "missing \x7b"
  let name ← takeUntil '}' "character name" fuel
  match charOfName? name with
  | some c => pure (.char c)
  | none => refuse ("undefined character name " ++ quote name) (name.length + 4)

/-- Reads `\u`, `\U` or `\N`, which only a text pattern knows; in a byte string they are
letters that escape nothing. -/
def textEscape (c : Char) (fuel : Nat) : ReadM Escaped := do
  if (← get).bytes then refuse ("bad escape \\" ++ String.singleton c) 2
  else if c == 'u' then readCodeEscape 'u' 4
  else if c == 'U' then readCodeEscape 'U' 8
  else readNamedEscape fuel

/-- Reads an escape inside a class; `c` follows the backslash. -/
def classEscape (c : Char) (fuel : Nat) : ReadM Escaped := do
  match simpleEscape c, categoryEscape c with
  | some ch, _ => pure (.char ch)
  | none, some (cat, neg) => pure (.category cat neg)
  | none, none =>
    if c == 'b' then pure (.char '\x08')
    else if c == 'x' then readCodeEscape 'x' 2
    else if c == 'u' || c == 'U' || c == 'N' then textEscape c fuel
    else if isOctChar c then
      let ds ← takeWhile isOctChar 2
      let v := octValue (String.singleton c ++ ds)
      if v > 0o377 then
        refuse ("octal escape value \\" ++ String.singleton c ++ ds ++ " outside of range 0-0o377")
          (ds.length + 2)
      match charOfCode? v with
      | some ch => pure (.char ch)
      | none => refuse ("bad escape \\" ++ String.singleton c) 2
    else if isDigitChar c || isAsciiLetter c then refuse ("bad escape \\" ++ String.singleton c) 2
    else pure (.char c)

/-- Reads an escape outside a class; `c` follows the backslash. -/
def seqEscape (c : Char) (fuel : Nat) : ReadM Escaped := do
  match categoryEscape c with
  | some (cat, neg) => pure (.category cat neg)
  | none =>
  if c == 'A' then pure (.anchor .textStart)
  else if c == 'Z' then pure (.anchor .textEnd)
  else if c == 'b' then pure (.anchor .boundary)
  else if c == 'B' then pure (.anchor .nonBoundary)
  else match simpleEscape c with
  | some ch => pure (.char ch)
  | none =>
    if c == 'x' then readCodeEscape 'x' 2
    else if c == 'u' || c == 'U' || c == 'N' then textEscape c fuel
    else if c == '0' then
      let ds ← takeWhile isOctChar 2
      match charOfCode? (octValue ds) with
      | some ch => pure (.char ch)
      | none => refuse "bad escape \\0" 2
    else if isDigitChar c then do
      let mut esc := String.singleton c
      if tokenIs isDigitChar (← peek) then
        let d := (← take).map Token.text |>.getD ""
        esc := esc ++ d
        let d0 := d.toList.headD ' '
        if isOctChar c && isOctChar d0 && tokenIs isOctChar (← peek) then
          let e := (← take).map Token.text |>.getD ""
          esc := esc ++ e
          let v := octValue esc
          if v > 0o377 then
            refuse ("octal escape value \\" ++ esc ++ " outside of range 0-0o377") (esc.length + 1)
          match charOfCode? v with
          | some ch => return .char ch
          | none => refuse ("bad escape \\" ++ esc) (esc.length + 1)
      let gid := esc.foldl (fun n ch => n * 10 + (ch.toNat - '0'.toNat)) 0
      if gid < (← get).groups then
        if !(← groupClosed gid) then refuse "cannot refer to an open group" (esc.length + 1)
        checkLookbehindRef gid
        pure (.backref gid)
      else refuse ("invalid group reference " ++ toString gid) esc.length
    else if isAsciiLetter c then refuse ("bad escape \\" ++ String.singleton c) 2
    else pure (.char c)

/-- A piece of a sequence while it is read. -/
inductive Piece where
  /-- A node. -/
  | node (n : Node)
  /-- `(?:...)` with no flags: its nodes join the sequence. -/
  | plain (body : List Node)
  /-- `(?flags:...)`: its nodes join the sequence, but it repeats as a unit. -/
  | scoped (body : List Node)

/-- The nodes of a read sequence, groups without capture spliced in. -/
def Piece.flatten : List Piece → List Node
  | [] => []
  | .node n :: rest => n :: Piece.flatten rest
  | .plain b :: rest => b ++ Piece.flatten rest
  | .scoped b :: rest => b ++ Piece.flatten rest

/-- What a repetition symbol at position `pos` repeats: the last piece read, which must exist
and be neither an anchor nor a repetition. -/
def repeatTarget (pieces : List Piece) (pos : Nat) : ReadM (List Node) := do
  match pieces.getLast? with
  | none => refuseAt "nothing to repeat" pos
  | some (.node (.anchor ..)) => refuseAt "nothing to repeat" pos
  | some (.node (.rep ..)) => refuseAt "multiple repeat" pos
  | some (.node n) => pure [n]
  | some (.plain b) => pure b
  | some (.scoped b) => pure b

/-- A list without its repeated members, first occurrences kept. -/
def dedupItems (items : List ClassItem) : List ClassItem :=
  items.foldl (fun acc x => if acc.contains x then acc else acc ++ [x]) []

/-- Skips a `(?#...)` comment up to its `)`; `start` is the position of its parenthesis. -/
def skipComment (start : Nat) : Nat → ReadM Unit
  | 0 => pure ()
  | k + 1 => do
    match ← peek with
    | none => refuseAt "missing ), unterminated comment" start
    | some _ =>
      let t ← take
      if (t.map (Token.isChar ')')).getD false then pure () else skipComment start k

/-- Skips a `#` comment of a verbose pattern up to the end of its line. -/
def skipLineComment : Nat → ReadM Unit
  | 0 => pure ()
  | k + 1 => do
    match ← take with
    | none => pure ()
    | some tok => if tok.isChar '\n' then pure () else skipLineComment k

/-- The code point an escape names, if it names one. -/
def Escaped.code? : Escaped → Option Nat
  | .char c => some c.toNat
  | .surrogate v => some v
  | _ => none

/-- The class member for the code points from `lo` to `hi`: the characters among them, an end
that is a surrogate moving past the surrogates. -/
def rangeItem (lo hi : Nat) : ClassItem :=
  let isSurrogate := fun (v : Nat) => 0xd800 ≤ v && v ≤ 0xdfff
  let lo := if isSurrogate lo then 0xe000 else lo
  let hi := if isSurrogate hi then 0xd7ff else hi
  if hi < lo then .nothing else .range (Char.ofNat lo) (Char.ofNat hi)

/-- What a member token of a class stands for: an escape as read, a plain character itself. -/
def classCode (t : Token) (fuel : Nat) : ReadM Escaped :=
  match t with
  | .escaped c => classEscape c fuel
  | .plain c => pure (.char c)

/-- The members an escape brings to a class on its own. -/
def Escaped.classItems : Escaped → List ClassItem
  | .char c => [.char c]
  | .category cat neg => [.category cat neg]
  | .surrogate _ => [.nothing]
  | _ => []

/-- Reads the members of a class up to its `]`; `here` is the position of its bracket. -/
def readClassItems (here : Nat) : Nat → List ClassItem → ReadM (List ClassItem)
  | 0, acc => pure acc
  | n + 1, acc => do
    match ← take with
    | none => refuseAt "unterminated character set" here
    | some this =>
    if this.isChar ']' && !acc.isEmpty then return acc
    let code1 ← classCode this n
    if ← accept '-' then
      match ← take with
      | none => refuseAt "unterminated character set" here
      | some that =>
      if that.isChar ']' then return acc ++ code1.classItems ++ [.char '-']
      let code2 ← classCode that n
      let msg := "bad character range " ++ this.text ++ "-" ++ that.text
      match code1.code?, code2.code? with
      | some lo, some hi =>
        if hi < lo then refuse msg (this.text.length + 1 + that.text.length)
        readClassItems here n (acc ++ [rangeItem lo hi])
      | _, _ => refuse msg (this.text.length + 1 + that.text.length)
    else readClassItems here n (acc ++ code1.classItems)

/-- Reads the body of a class after `[`; `here` is the position of the bracket. -/
def readClass (fuel : Nat) (here : Nat) : ReadM (List ClassItem × Bool) := do
  let neg ← accept '^'
  let its ← readClassItems here (fuel + 1) []
  pure (dedupItems its, neg)

/-- A name no group has yet keeps the group names distinct. -/
theorem nodup_names_append {names : List (String × Nat)} {nm : String} (gid : Nat)
    (h : (names.map (·.1)).Nodup) (hnew : names.find? (·.1 == nm) = none) :
    ((names ++ [(nm, gid)]).map (·.1)).Nodup := by
  rw [List.map_append, List.nodup_append]
  refine ⟨h, by simp, fun a ha b hb hab => ?_⟩
  obtain ⟨⟨n, g⟩, hmem, rfl⟩ := List.mem_map.mp ha
  have hb : b = nm := by simpa using hb
  have := List.find?_eq_none.mp hnew (n, g) hmem
  simp_all

/-- Opens a capturing group, refusing a name used before. -/
def openGroup (name : Option String) : ReadM Nat := do
  let s ← get
  let gid := s.groups
  match name with
  | some nm =>
    match hnew : s.names.find? (·.1 == nm) with
    | some (_, old) =>
      refuse ("redefinition of group name " ++ quote nm ++ " as group " ++ toString gid ++
        "; was group " ++ toString old) (nm.length + 1)
    | none =>
      set { s with groups := gid + 1, names := s.names ++ [(nm, gid)],
                   names_nodup := nodup_names_append gid s.names_nodup hnew }
  | none => set { s with groups := gid + 1 }
  pure gid

/-- Closes a capturing group after its body, requiring the `)`. -/
def closeGroupAt (start gid : Nat) (body : List Node) : ReadM Unit := do
  if !(← accept ')') then refuseAt "missing ), unterminated subpattern" start
  let s ← get
  set { s with closed := s.closed ++ [(gid, seqWidth s.closed body)] }

/-- Whether a character is an ASCII blank, which verbose patterns skip. -/
def isVerboseBlank (c : Char) : Bool :=
  c == ' ' || c == '\t' || c == '\n' || c == '\r' || c == '\x0b' || c == '\x0c'


/-- Reads the count of a `{m,n}` repetition after its brace; `none` if the brace is a literal
character. -/
def readCounts (here : Nat) : ReadM (Option (Nat × Option Nat)) := do
  let lo ← takeWhile isDigitChar 1000000
  let (hi, comma) ← if ← accept ',' then do pure (← takeWhile isDigitChar 1000000, true)
    else pure (lo, false)
  if !(← accept '}') then return none
  let lv := lo.foldl (fun n c => n * 10 + (c.toNat - '0'.toNat)) 0
  if !lo.isEmpty && maxRepeat ≤ lv then throw (.overflow "the repetition number is too large")
  let hv : Option Nat :=
    if hi.isEmpty then none else some (hi.foldl (fun n c => n * 10 + (c.toNat - '0'.toNat)) 0)
  match hv with
  | some h =>
    if maxRepeat ≤ h then throw (.overflow "the repetition number is too large")
    if h < lv then refuseAt "min repeat greater than max repeat" here
    pure (some (lv, some h))
  | none => pure (some (lv, if comma then none else some lv))

/-- The repetition counts of a quantifier symbol taken at `here`; `none` when a brace turns out
to be a plain character. -/
def readQuantifier (c : Char) (here : Nat) : ReadM (Option (Nat × Option Nat)) := do
  if c == '?' then pure (some (0, some 1))
  else if c == '*' then pure (some (0, none))
  else if c == '+' then pure (some (1, none))
  else if tokenIs (· == '}') (← peek) then pure none
  else
    let saved ← get
    match ← readCounts here with
    | some r => pure (some r)
    | none =>
      set saved
      pure none

/-- Whether two nodes are one simple node written twice: the same character, class, any
character, anchor or back-reference. Nodes that hold other nodes are never taken as the same. -/
def Node.sameSimple : Node → Node → Bool
  | .char c n fl, .char d m gl => c == d && n == m && fl == gl
  | .cls xs n fl, .cls ys m gl => xs == ys && n == m && fl == gl
  | .any fl, .any gl => fl == gl
  | .anchor a fl, .anchor b gl => a == b && fl == gl
  | .backref i fl, .backref j gl => i == j && fl == gl
  | _, _ => false

/-- Whether two pieces are one simple node written twice; a group without capture never is. -/
def Piece.sameSimple : Piece → Piece → Bool
  | .node a, .node b => a.sameSimple b
  | _, _ => false

/-- Splits off the pieces that every branch starts with, as long as no branch runs out. -/
def commonLead : Nat → List (List Piece) → List Node × List (List Piece)
  | 0, bs => ([], bs)
  | fuel + 1, bs =>
    match bs with
    | (p :: _) :: _ =>
      let starts := bs.all fun b => match b with
        | q :: _ => q.sameSimple p
        | [] => false
      if starts then
        let (lead, rest) := commonLead fuel (bs.map List.tail)
        (Piece.flatten [p] ++ lead, rest)
      else ([], bs)
    | _ => ([], bs)

/-- The members a branch brings to a class, and the flags it is read under, when the branch is
one character or one class that is not negated. -/
def classMembers? : List Piece → Option (List ClassItem × Flags)
  | [.node (.char c false fl)] => some ([.char c], fl)
  | [.node (.cls items false fl)] => some (items, fl)
  | _ => none

/-- Joins the branches of an alternation: the simple nodes that every branch starts with are
taken out in front, and when each branch that remains is one character or one class that is
not negated, the branches become a single class holding all their members. -/
def joinBranches (bs : List (List Piece)) : List Node :=
  match bs with
  | [one] => Piece.flatten one
  | _ =>
    let (lead, rest) := commonLead ((bs.headD []).length) bs
    let joined : Node :=
      match rest.mapM classMembers? with
      | some ((items, fl) :: more) => .cls (dedupItems (items ++ (more.flatMap (·.1)))) false fl
      | _ => .alt (rest.map Piece.flatten)
    lead ++ [joined]

/-- How deep the reading of nested groups may go: each group takes two levels (its alternation
and its sequences), a conditional's branches one, and reading refuses to go this deep, as the
reader's own nesting of calls runs out there. -/
def readDepthLimit : Nat := 988

/-- Refuses to read at nesting level `nested` when it reaches `readDepthLimit`. -/
def checkDepth (nested : Nat) : ReadM Unit :=
  if readDepthLimit ≤ nested then throw .tooDeep else pure ()

mutual

/-- Reads an alternation up to `)` or the end. -/
def readAlternation : Nat → Bool → Nat → FlagScope → ReadM (List Node)
  | 0, _, _, _ => pure []
  | fuel + 1, verbose, nested, scopes => do
    checkDepth nested
    let items ← readBranches fuel verbose nested scopes []
    pure (joinBranches items)

/-- Reads the branches of an alternation, `acc` holding those read so far, last first. -/
def readBranches : Nat → Bool → Nat → FlagScope → List (List Piece) → ReadM (List (List Piece))
  | 0, _, _, _, acc => pure acc.reverse
  | fuel + 1, verbose, nested, scopes, acc => do
    checkDepth (nested + 1)
    let item ← readPieces fuel verbose (nested + 1) (nested == 0 && acc.isEmpty) scopes []
    if ← accept '|' then
      let g ← get
      let verbose := if nested == 0 then g.flags.verbose else verbose
      readBranches fuel verbose nested scopes (item :: acc)
    else pure (item :: acc).reverse

/-- Reads a sequence up to `|`, `)` or the end. -/
def readSequence : Nat → Bool → Nat → Bool → FlagScope → ReadM (List Node)
  | 0, _, _, _, _ => pure []
  | fuel + 1, verbose, nested, first, scopes => do
    checkDepth nested
    let pieces ← readPieces fuel verbose nested first scopes []
    pure (Piece.flatten pieces)

/-- Reads the pieces of a sequence, `acc` holding those read so far. -/
def readPieces : Nat → Bool → Nat → Bool → FlagScope → List Piece → ReadM (List Piece)
  | 0, _, _, _, _, acc => pure acc
  | fuel + 1, verbose, nested, first, scopes, acc => do
    match ← peek with
    | none => pure acc
    | some t =>
    if t.isChar '|' || t.isChar ')' then return acc
    advance
    if verbose then
      match t with
      | .plain c =>
        if isVerboseBlank c then return ← readPieces fuel verbose nested first scopes acc
        if c == '#' then
          skipLineComment (fuel + 1)
          return ← readPieces fuel verbose nested first scopes acc
      | _ => pure ()
    let fl ← currentFlags scopes
    match t with
    | .escaped c =>
      let piece : Node ← match ← seqEscape c fuel with
        | .char ch => pure (.char ch false fl)
        | .category cat neg => pure (.cls [.category cat neg] false fl)
        | .anchor a => pure (.anchor a fl)
        | .backref gid => pure (.backref gid fl)
        | .surrogate _ => pure (.cls [.nothing] false fl)
      readPieces fuel verbose nested first scopes (acc ++ [.node piece])
    | .plain c =>
      if c == '[' then
        let here := (← tell) - 1
        let (items, neg) ← readClass fuel here
        let node : Node :=
          match items with
          | [.char ch] => .char ch neg fl
          | _ => .cls items neg fl
        readPieces fuel verbose nested first scopes (acc ++ [.node node])
      else if c == '*' || c == '+' || c == '?' || c == '{' then
        let here ← tell
        match ← readQuantifier c here with
        | none => readPieces fuel verbose nested first scopes (acc ++ [.node (.char '{' false fl)])
        | some (lo, hi) =>
          let body ← repeatTarget acc (here - 1)
          let lazy ← accept '?'
          let greed ← if lazy then pure Greed.lazy
            else do
              let possessive ← accept '+'
              pure (if possessive then Greed.possessive else Greed.greedy)
          let repeated := Piece.node (.rep lo hi greed body)
          readPieces fuel verbose nested first scopes (acc.dropLast ++ [repeated])
      else if c == '.' then readPieces fuel verbose nested first scopes (acc ++ [.node (.any fl)])
      else if c == '^' then
        readPieces fuel verbose nested first scopes (acc ++ [.node (.anchor .lineStart fl)])
      else if c == '$' then
        readPieces fuel verbose nested first scopes (acc ++ [.node (.anchor .lineEnd fl)])
      else if c == '(' then
        let start := (← tell) - 1
        match ← readGroup fuel verbose nested first acc.isEmpty scopes start with
        | some piece => readPieces fuel verbose nested first scopes (acc ++ [piece])
        | none =>
          let g ← get
          readPieces fuel (if g.flags.verbose then true else verbose) nested first scopes acc
      else readPieces fuel verbose nested first scopes (acc ++ [.node (.char c false fl)])

/-- Reads what follows `(`; `none` when it was a comment or flags for the whole pattern. -/
def readGroup : Nat → Bool → Nat → Bool → Bool → FlagScope → Nat → ReadM (Option Piece)
  | 0, _, _, _, _, _, _ => pure none
  | fuel + 1, verbose, nested, first, noneYet, scopes, start => do
  if !(← accept '?') then
    let gid ← openGroup none
    let body ← readAlternation fuel verbose (nested + 1) scopes
    closeGroupAt start gid body
    return some (.node (.group gid body))
  match ← take with
  | none => refuse "unexpected end of pattern"
  | some (.escaped c) => refuse ("unknown extension ?\\" ++ String.singleton c) 3
  | some (.plain c) =>
  if c == 'P' then
    if ← accept '<' then
      let name ← takeUntil '>' "group name" fuel
      checkName name 1
      let gid ← openGroup (some name)
      let body ← readAlternation fuel verbose (nested + 1) scopes
      closeGroupAt start gid body
      return some (.node (.group gid body))
    else if ← accept '=' then
      let name ← takeUntil ')' "group name" fuel
      checkName name 1
      match (← get).names.find? (·.1 == name) with
      | none => refuse ("unknown group name " ++ quote name) (name.length + 1)
      | some (_, gid) =>
        if !(← groupClosed gid) then refuse "cannot refer to an open group" (name.length + 1)
        checkLookbehindRef gid
        let fl ← currentFlags scopes
        return some (.node (.backref gid fl))
    else
      match ← take with
      | none => refuse "unexpected end of pattern"
      | some t => refuse ("unknown extension ?P" ++ t.text) (t.text.length + 2)
  else if c == ':' then
    let body ← readAlternation fuel verbose (nested + 1) scopes
    if !(← accept ')') then refuseAt "missing ), unterminated subpattern" start
    return some (.plain body)
  else if c == '#' then
    skipComment start (fuel + 1)
    return none
  else if c == '=' || c == '!' then
    let body ← readAlternation fuel verbose (nested + 1) scopes
    if !(← accept ')') then refuseAt "missing ), unterminated subpattern" start
    return some (.node (.look false (c == '!') body))
  else if c == '<' then
    let d ← match ← take with
      | none => refuse "unexpected end of pattern"
      | some (.plain d) =>
        if d != '=' && d != '!' then refuse ("unknown extension ?<" ++ String.singleton d) 3
        else pure d
      | some t => refuse ("unknown extension ?<" ++ t.text) (t.text.length + 2)
    let s ← get
    let outer := s.lookbehindGroups
    if outer.isNone then set { s with lookbehindGroups := some s.groups }
    let body ← readAlternation fuel verbose (nested + 1) scopes
    if outer.isNone then modify fun s => { s with lookbehindGroups := none }
    if !(← accept ')') then refuseAt "missing ), unterminated subpattern" start
    return some (.node (.look true (d == '!') body))
  else if c == '(' then
    let condName ← takeUntil ')' "group name" fuel
    let gid ← if isIdentifier condName then do
        checkName condName 1
        match (← get).names.find? (·.1 == condName) with
        | none => refuse ("unknown group name " ++ quote condName) (condName.length + 1)
        | some (_, g) => pure g
      else do
        let g ← match Number.readInt? condName with
          | some g => if g < 0 then pure none else pure (some g.toNat)
          | none => pure none
        let some g := g
          | refuse ("bad character in group name " ++ quote condName) (condName.length + 1)
        if g == 0 then refuse "bad group number" (condName.length + 1)
        if 1073741823 ≤ g then
          refuse ("invalid group reference " ++ toString g) (condName.length + 1)
        let s ← get
        if (s.condRefs.find? (·.1 == g)).isNone then
          let p ← tell
          set { s with condRefs := s.condRefs ++ [(g, p - condName.length - 1)] }
        pure g
    checkLookbehindRef gid
    let yes ← readSequence fuel verbose (nested + 1) false scopes
    let no ← if ← accept '|' then do
        let no ← readSequence fuel verbose (nested + 1) false scopes
        if tokenIs (· == '|') (← peek) then
          refuse "conditional backref with more than two branches"
        pure no
      else pure []
    if !(← accept ')') then refuseAt "missing ), unterminated subpattern" start
    return some (.node (.cond gid yes no))
  else if c == '>' then
    let body ← readAlternation fuel verbose (nested + 1) scopes
    if !(← accept ')') then refuseAt "missing ), unterminated subpattern" start
    return some (.node (.atomic body))
  else if isFlagChar c || c == '-' then
    match ← readFlags c fuel with
    | .whole add =>
      if !first || !noneYet then
        refuseAt "global flags not at the start of the expression" start
      modify fun s => { s with flags := s.flags.union add }
      return none
    | .scoped add del =>
      let subVerbose := (verbose || add.verbose) && !del.verbose
      let body ← readAlternation fuel subVerbose (nested + 1) (scopes ++ [(add, del)])
      if !(← accept ')') then refuseAt "missing ), unterminated subpattern" start
      return some (.scoped body)
  else refuse ("unknown extension ?" ++ String.singleton c) 2

end

end AccessLog.Regex

import AccessLog.Error
import AccessLog.Regex.Compile

/-!
# Archive entry globs

A glob selects archive entries by name. It is read left to right as tokens:

* a backslash and the character after it stand for that character;
* `*` stands for any run of characters other than `/`, and `?` for one such character, so that
  `*.log` selects only entries at the top of the archive;
* `[` opens a class: an optional `!` or `^` negates it, a `]` right after the opening is part of
  the body, and the body runs to the next `]`. Inside the body a backslash makes the next
  character plain (unless it is the body's last character), a `-` between two members makes a
  range, and a `-` at the end is itself a member. The class stands for one character, `/`
  included, inside (or, negated, outside) its members;
* every other character stands for itself.

A glob is *malformed* when it ends in a lone backslash or opens a class that is never closed.

A name is matched against a glob through its pattern text (`Glob.patternText`), in which plain
characters are escaped: the text is compiled, with `.` taking line breaks too, and must match the
whole name. A class whose range runs backwards is refused when that text is compiled, and its
error is the error of matching with the glob. Otherwise a name matches exactly when the whole name
is spelled by the tokens (`matchTokens`), as is shown where the matching of glob patterns is
studied.

A glob may also be handed over as another value, which is then read place by place as text is:
its length first (a value without one is a type error), then its items, each compared with the
one-character texts. An item `*` or `?` is a wildcard, an item after a backslash item and every
other item stand for their own text, and an item that is not text is a type error when its text
is taken; a bracket item opens a class, which only text can hold, so it is an error there. The
places of a list, tuple or byte string are its items (a byte being an integer), those of a
mapping its entries under the integer keys, and a set has none.

## Main statements

* `matchTokens_nil`: the empty glob matches the empty name only.
-/

namespace AccessLog

open AccessLog.Regex AccessLog.Text AccessLog.Number

/-- After a class's opening bracket: whether an `!` or `^` negates it, and the rest. -/
def skipNegation : List Char → Bool × List Char
  | c :: r => if c == '!' || c == '^' then (true, r) else (false, c :: r)
  | [] => (false, [])

/-- A `]` right after the opening (and the negation) belongs to the body. -/
def skipLeadBracket : List Char → List Char × List Char
  | ']' :: r => ([']'], r)
  | r => ([], r)

/-- Reads a class after its opening bracket: the negation, the body, and what follows the
closing bracket; `none` when the class is never closed. -/
def readClassBody (rest : List Char) : Option (Bool × List Char × List Char) :=
  let r1 := skipNegation rest
  let r2 := skipLeadBracket r1.2
  match r2.2.dropWhile (· != ']') with
  | [] => none
  | _ :: after => some (r1.1, r2.1 ++ r2.2.takeWhile (· != ']'), after)

theorem skipNegation_length (rest : List Char) : (skipNegation rest).2.length ≤ rest.length := by
  unfold skipNegation
  split
  · split <;> simp
  · simp

theorem skipLeadBracket_length (r : List Char) : (skipLeadBracket r).2.length ≤ r.length := by
  unfold skipLeadBracket
  split <;> simp

theorem readClassBody_length {rest after : List Char} {neg : Bool} {body : List Char}
    (h : readClassBody rest = some (neg, body, after)) : after.length < rest.length + 1 := by
  unfold readClassBody at h
  simp only at h
  have h1 := skipNegation_length rest
  have h2 := skipLeadBracket_length (skipNegation rest).2
  have h3 := List.IsSuffix.length_le
    (List.dropWhile_suffix (fun x => x != ']') (l := (skipLeadBracket (skipNegation rest).2).2))
  revert h3 h
  generalize List.dropWhile (fun x => x != ']') (skipLeadBracket (skipNegation rest).2).2 = d
  intro h h3
  cases d with
  | nil => simp at h
  | cons c after' =>
    simp only [Option.some.injEq, Prod.mk.injEq] at h
    obtain ⟨_, _, rfl⟩ := h
    simp at h3
    omega

/-- Checks that a glob is well formed. -/
def validateGlob (g : String) : Except Error Unit :=
  go g.toList
where
  /-- Scans the rest of the glob. -/
  go : List Char → Except Error Unit
    | [] => .ok ()
    | ['\\'] => .error (.glob (.str g) "trailing escape character")
    | '\\' :: _ :: rest => go rest
    | '[' :: rest =>
      match h : readClassBody rest with
      | none => .error (.glob (.str g) "unterminated character class")
      | some (_, _, after) =>
        have := readClassBody_length h
        go after
    | _ :: rest => go rest
  termination_by cs => cs.length

/-- One member of a class body, before ranges are formed. -/
inductive ClassUnit where
  /-- A `-` that was not escaped. -/
  | dash
  /-- A plain character. -/
  | plain (c : Char)
  deriving Repr, DecidableEq, Inhabited

/-- The character a class unit stands for. -/
def ClassUnit.char : ClassUnit → Char
  | .dash => '-'
  | .plain c => c

/-- A token of a glob. -/
inductive GlobToken where
  /-- One given character. -/
  | char (c : Char)
  /-- Any run of characters other than `/`. -/
  | star
  /-- One character other than `/`. -/
  | one
  /-- One character in (or, when `neg`, outside) the class. -/
  | cls (neg : Bool) (units : List ClassUnit)
  deriving Repr, DecidableEq, Inhabited

/-- The units of a class body. -/
def classUnits : List Char → List ClassUnit
  | [] => []
  | '\\' :: c :: rest => .plain c :: classUnits rest
  | '-' :: rest => .dash :: classUnits rest
  | c :: rest => .plain c :: classUnits rest

/-- The tokens of a well-formed glob. -/
def globTokens : List Char → List GlobToken
  | [] => []
  | '\\' :: c :: rest => .char c :: globTokens rest
  | '*' :: rest => .star :: globTokens rest
  | '?' :: rest => .one :: globTokens rest
  | '[' :: rest =>
    match h : readClassBody rest with
    | none => [.char '[']
    | some (neg, body, after) =>
      have := readClassBody_length h
      .cls neg (classUnits body) :: globTokens after
  | c :: rest => .char c :: globTokens rest
  termination_by cs => cs.length

/-- The characters a pattern text escapes with a backslash. -/
def specialChars : List Char :=
  ['(', ')', '[', ']', '\x7b', '\x7d', '?', '*', '+', '-', '|', '^', '$', '\\', '.', '&', '~', '#',
    ' ', '\t', '\n', '\r', '\x0b', '\x0c']

/-- A character written plainly in a pattern text. -/
def escapeForPattern (c : Char) : String :=
  if specialChars.contains c then String.ofList ['\\', c] else String.singleton c

/-- The pattern text of a member of a class: a dash stays plain, so that it makes ranges. -/
def ClassUnit.patternText : ClassUnit → String
  | .dash => "-"
  | .plain c => escapeForPattern c

/-- The pattern text of a glob token. -/
def GlobToken.patternText : GlobToken → String
  | .char c => escapeForPattern c
  | .star => "[^/]*"
  | .one => "[^/]"
  | .cls neg units =>
    "[" ++ (if neg then "^" else "") ++ String.join (units.map ClassUnit.patternText) ++ "]"

/-- The pattern text of a well-formed glob. -/
def Glob.patternText (g : String) : String :=
  String.join ((globTokens g.toList).map GlobToken.patternText)

/-- The ranges of a class, from its units: a unit, a dash and a unit make a range; a dash at the
end is a member of its own. -/
def classRanges : List ClassUnit → List (Char × Char)
  | [] => []
  | [u, .dash] => [(u.char, u.char), ('-', '-')]
  | u :: .dash :: v :: rest => (u.char, v.char) :: classRanges rest
  | u :: rest => (u.char, u.char) :: classRanges rest

/-- Whether one character is spelled by a single-character token. -/
def GlobToken.accepts : GlobToken → Char → Bool
  | .char c, x => c == x
  | .star, _ => false
  | .one, x => x != '/'
  | .cls neg units, x => (classRanges units).any (fun (lo, hi) => lo ≤ x && x ≤ hi) != neg

/-- Whether the tokens spell the whole of a name. -/
def matchTokens : List GlobToken → List Char → Bool
  | [], xs => xs.isEmpty
  | .star :: ts, xs =>
    matchTokens ts xs ||
      match xs with
      | x :: rest => x != '/' && matchTokens (.star :: ts) rest
      | [] => false
  | t :: ts, x :: rest => t.accepts x && matchTokens ts rest
  | _ :: _, [] => false
  termination_by ts xs => (xs.length, ts.length)

theorem matchTokens_nil (xs : List Char) : matchTokens [] xs = xs.isEmpty := by
  simp [matchTokens]

/-- Whether a name matches a well-formed glob: the glob's pattern text, compiled with `.` taking
line breaks too, must match the whole name. An error when the text does not compile, or when the
match cannot be reported. -/
def matchEntryName (name glob : String) : Except Error Bool :=
  let text := Glob.patternText glob
  match Pattern.compile text { dotAll := true } with
  | .error e => .error (.regex (e.text text))
  | .ok p =>
    match p.fullMatch name with
    | .ok m => .ok m.isSome
    | .error f => .error f.toError

/-! ## The translator, round by round

The pattern text of a glob is written by a loop over its positions, reading one character (two
for an escape, a whole class for a bracket) each round. The loop itself does not check the glob:
after a lone backslash at the end it reads a place past the end, and when a class is never
closed its closing place is `-1`, so that the next round starts over at position zero. -/

/-- The first place from `j` on that holds `c`, or `-1` when there is none. -/
def findFrom (cs : List Char) (c : Char) (j : Nat) : Int :=
  match (cs.drop j).idxOf? c with
  | some k => ((j + k : Nat) : Int)
  | none => -1

/-- The failure of reading a place past the end of a text. -/
def indexFault : Error := .value (.outOfRange "string index out of range")

/-- The pattern text of a class body, from place `k` up to the closing place `close`: a backslash
before the body's last place makes the next character plain, a `-` is kept for ranges, and every
other character is written plainly; `none` when a place past the end is read. -/
def classText (cs : List Char) (close : Int) (k : Nat) : Option String :=
  if _h : (k : Int) < close then
    cs[k]?.bind fun ch =>
      if ch = '\\' ∧ (k : Int) + 1 < close then
        cs[k + 1]?.bind fun d => (classText cs close (k + 2)).map (escapeForPattern d ++ ·)
      else (classText cs close (k + 1)).map ((if ch = '-' then "-" else escapeForPattern ch) ++ ·)
  else some ""
  termination_by (close - k).toNat
  decreasing_by all_goals omega

/-- Whether a class opened just before place `j` is negated: place `j` holds `!` or `^`. -/
def negatesAt (cs : List Char) (j : Nat) : Bool :=
  cs[j]?.any fun x => x == '!' || x == '^'

/-- Where the body of the class opened at place `i` starts: after the bracket and its negation. -/
def bodyStart (cs : List Char) (i : Nat) : Nat :=
  if negatesAt cs (i + 1) then i + 2 else i + 1

/-- The closing place of a class whose body starts at `start`: the first `]` from there on, not
counting a `]` that starts the body; `-1` when there is none. -/
def classClose (cs : List Char) (start : Nat) : Int :=
  findFrom cs ']' (if cs[start]? = some ']' then start + 1 else start)

/-- What one round of the translator's loop does. -/
inductive GlobRound where
  /-- The position is past the end: the loop is over. -/
  | stop
  /-- A place past the end of the glob was read. -/
  | overrun
  /-- The round wrote `text` and the loop goes on at `pos`. -/
  | next (text : String) (pos : Nat)
  deriving Repr, DecidableEq, Inhabited

/-- One round of the translator's loop at position `i`. -/
def globRound (cs : List Char) (i : Nat) : GlobRound :=
  match cs[i]? with
  | none => .stop
  | some c =>
    if c = '\\' then
      match cs[i + 1]? with
      | none => .overrun
      | some d => .next (escapeForPattern d) (i + 2)
    else if c = '*' then .next "[^/]*" (i + 1)
    else if c = '?' then .next "[^/]" (i + 1)
    else if c = '[' then
      let close := classClose cs (bodyStart cs i)
      match classText cs close (bodyStart cs i) with
      | none => .overrun
      | some body =>
        .next ("[" ++ (if negatesAt cs (i + 1) then "^" else "") ++ body ++ "]") (close + 1).toNat
    else .next (escapeForPattern c) (i + 1)

/-- The translator's loop from position `i`, for at most `fuel` rounds: the pattern text it
writes, or the failure of a read past the end; `none` when the rounds run out first. -/
def globRounds (cs : List Char) : (fuel : Nat) → (i : Nat) → Option (Except Error String)
  | 0, _ => none
  | fuel + 1, i =>
    match globRound cs i with
    | .stop => some (.ok "")
    | .overrun => some (.error indexFault)
    | .next t j => (globRounds cs fuel j).map fun r => r.map (t ++ ·)

/-! ## Globs handed over as other values -/

/-- The length of a glob handed over as a value. -/
def globLength (g : Value) : Except ValueFault Nat :=
  match g.peel with
  | .str s => .ok s.length
  | .list xs | .tuple xs | .set xs => .ok xs.length
  | .dict kvs => .ok kvs.length
  | .bytes bs => .ok bs.length
  | w => .error (.wrongType ("object of type '" ++ w.qualifiedKindName ++ "' has no len()"))

/-- The item at place `i` of a glob handed over as a value. -/
def globItem (g : Value) (i : Nat) : Except ValueFault Value :=
  match g.peel with
  | .str s => .ok (.str (String.singleton (s.toList.getD i ' ')))
  | .list xs | .tuple xs => .ok (xs.getD i .none)
  | .bytes bs => .ok (.int (bs.getD i 0))
  | .dict kvs =>
    match Value.lookup kvs (.int i) with
    | some x => .ok x
    | none => .error (.missingKey (natText i))
  | w => .error (.wrongType ("'" ++ w.qualifiedKindName ++ "' object is not subscriptable"))

/-- Whether an item is the text `t`. -/
def isText (x : Value) (t : String) : Bool :=
  match x with
  | .str s => s == t
  | _ => false

/-- Checks a glob handed over as a value other than text, of length `n`, from place `i`. -/
def validateItems (g : Value) (n : Nat) : (fuel : Nat) → (i : Nat) → Except Error Unit
  | 0, _ => .ok ()
  | fuel + 1, i =>
    if n ≤ i then .ok ()
    else do
      let c ← (globItem g i).mapError .value
      if isText c "\\" then
        if n ≤ i + 1 then throw (.glob g "trailing escape character")
        validateItems g n fuel (i + 2)
      else if isText c "[" then
        let j := i + 1
        let j ← if j < n then do
            match (← (globItem g j).mapError .value) with
            | .str t => pure (if ["", "!", "^", "!^"].contains t then j + 1 else j)
            | x => throw (.value (.wrongType ("'in <string>' requires string as left operand, not " ++
                x.qualifiedKindName)))
          else pure j
        if j < n then discard ((globItem g j).mapError .value)
        throw (.value (.noAttribute ("'" ++ g.kindName ++ "' object has no attribute 'find'")))
      else validateItems g n fuel (i + 1)

/-- Checks a glob handed over as a value. -/
def validateGlobValue (g : Value) : Except Error Unit :=
  match g with
  | .str s => validateGlob s
  | _ => do
    let n ← (globLength g).mapError .value
    validateItems g n (n + 1) 0

/-- One piece of the pattern text of a glob handed over as a value: tokens, or a byte string,
which cannot be joined with text. -/
inductive GlobPiece where
  /-- Tokens. -/
  | tokens (ts : List GlobToken)
  /-- A byte string. -/
  | bytes
  deriving Inhabited

/-- The piece an item stands for when it stands for its own text. -/
def plainPiece (x : Value) : Except Error GlobPiece :=
  match x.peel with
  | .str t => .ok (.tokens (t.toList.map .char))
  | .bytes _ => .ok .bytes
  | w => .error (.value (.wrongType ("decoding to str: need a bytes-like object, " ++
      w.qualifiedKindName ++ " found")))

/-- The pieces of a glob handed over as a value other than text, of length `n`, from place `i`;
the glob has been checked. -/
def itemPieces (g : Value) (n : Nat) : (fuel : Nat) → (i : Nat) → Except Error (List GlobPiece)
  | 0, _ => .ok []
  | fuel + 1, i =>
    if n ≤ i then .ok []
    else do
      let c ← (globItem g i).mapError .value
      if isText c "\\" then
        let p ← plainPiece (← (globItem g (i + 1)).mapError .value)
        return p :: (← itemPieces g n fuel (i + 2))
      else if isText c "*" then return .tokens [.star] :: (← itemPieces g n fuel (i + 1))
      else if isText c "?" then return .tokens [.one] :: (← itemPieces g n fuel (i + 1))
      else
        let p ← plainPiece c
        return p :: (← itemPieces g n fuel (i + 1))

/-- The tokens of a checked glob handed over as a value other than text. -/
def itemTokens (g : Value) : Except Error (List GlobToken) := do
  let n ← (globLength g).mapError .value
  let pieces ← itemPieces g n (n + 1) 0
  match pieces.findIdx? (fun | .bytes => true | _ => false) with
  | some k =>
    throw (.value (.wrongType ("sequence item " ++ natText k ++
      ": expected str instance, bytes found")))
  | none => return pieces.flatMap fun | .tokens ts => ts | .bytes => []

/-- Whether a name matches a checked glob handed over as a value. -/
def matchEntryValue (name : String) (g : Value) : Except Error Bool :=
  match g with
  | .str s => matchEntryName name s
  | _ => do return matchTokens (← itemTokens g) name.toList

end AccessLog

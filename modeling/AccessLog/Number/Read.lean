import AccessLog.Number.Binary64
import AccessLog.Text.Blank
import AccessLog.Text.Digit

/-!
# Reading numbers

The grammar of number text accepted by the configuration and by numeric filters:

* every decimal digit of any script counts as its ASCII digit, and every non-ASCII blank as a
  space; any other non-ASCII character makes the text unreadable;
* an underscore may stand only between two digits, and is then ignored;
* ASCII blanks around the number are ignored;
* a **float** is a sign, then digits with an optional point (at least one digit on some side of
  it), then an optional exponent `e` or `E` with a sign and digits; or a sign and `inf`,
  `infinity` or `nan` in any case. Its value is the nearest float;
* an **integer** is a sign and decimal digits; in another base, a sign, an optional base marker
  and digits of that base.
-/

namespace AccessLog.Number

open AccessLog.Text

/-- The ASCII blanks: space, tab, line feed, vertical tab, form feed, carriage return. -/
def isAsciiBlank (c : Char) : Bool :=
  c == ' ' || c == '\t' || c == '\n' || c == '\x0b' || c == '\x0c' || c == '\r'

/-- Whether a character is an ASCII digit. -/
def isAsciiDigit (c : Char) : Bool := '0' ≤ c && c ≤ '9'

/-- The character a number text reads in place of `c`: an ASCII character is itself, a non-ASCII
blank is a space, a non-ASCII digit is its ASCII digit, and any other non-ASCII character is `?`,
which no number contains. -/
def asciiNumberChar (c : Char) : Char :=
  if c.toNat < 128 then c
  else if isBlank c then ' '
  else match digitValue? c with
    | some d => Char.ofNat ('0'.toNat + d)
    | none => '?'

/-- Reads every character of a number text as `asciiNumberChar` does. -/
def toAsciiNumberText (cs : List Char) : List Char := cs.map asciiNumberChar

/-- Removes underscores that stand between two digits; `none` if one stands anywhere else. -/
def dropDigitSeparators (cs : List Char) : Option (List Char) :=
  let rec go : List Char → Char → Option (List Char)
    | [], prev => if prev == '_' then none else some []
    | c :: rest, prev =>
      if c == '_' then
        if isAsciiDigit prev then go rest c else none
      else if prev == '_' && !isAsciiDigit c then none
      else (go rest c).map (c :: ·)
  go cs '\x00'

/-- Drops ASCII blanks at both ends. -/
def trimAsciiBlanks (cs : List Char) : List Char :=
  ((cs.dropWhile isAsciiBlank).reverse.dropWhile isAsciiBlank).reverse

/-- The value of a run of ASCII digits. -/
def digitsValue (cs : List Char) : Nat :=
  cs.foldl (fun n c => n * 10 + (c.toNat - '0'.toNat)) 0

/-- Splits off an optional sign: whether it is negative, and the rest. -/
def takeSign : List Char → Bool × List Char
  | '+' :: rest => (false, rest)
  | '-' :: rest => (true, rest)
  | cs => (false, cs)

/-- Reads an optional exponent part at the end of a number: `some 0` when there is none. -/
def readExponent : List Char → Option Int
  | [] => some 0
  | c :: rest =>
    if c == 'e' || c == 'E' then
      let (neg, ds) := takeSign rest
      if !ds.isEmpty && ds.all isAsciiDigit then
        let v : Int := digitsValue ds
        some (if neg then -v else v)
      else none
    else none

/-- Reads the unsigned body of a float: digits, a point, digits, an exponent. -/
def readUnsignedFloat (neg : Bool) (cs : List Char) : Option Float :=
  let lower := String.ofList (cs.map Char.toLower)
  if lower == "inf" || lower == "infinity" then
    some (if neg then floatOfBits (2047 * Nat.pow 2 52 + Nat.pow 2 63) else infinity)
  else if lower == "nan" then some notANumber
  else
    let whole := cs.takeWhile isAsciiDigit
    let afterWhole := cs.dropWhile isAsciiDigit
    let (frac, afterFrac) :=
      match afterWhole with
      | '.' :: rest => (rest.takeWhile isAsciiDigit, rest.dropWhile isAsciiDigit)
      | rest => ([], rest)
    if whole.isEmpty && frac.isEmpty then none
    else
      match readExponent afterFrac with
      | some x => some (ofDecimal neg (digitsValue (whole ++ frac)) (x - frac.length))
      | none => none

/-- Reads a text as a float, or `none` if it is not one. -/
def readFloat? (s : String) : Option Float :=
  match dropDigitSeparators (toAsciiNumberText s.toList) with
  | none => none
  | some cs =>
    let (neg, body) := takeSign (trimAsciiBlanks cs)
    readUnsignedFloat neg body

/-- The most digits a decimal integer text may have. -/
def intDigitLimit : Nat := 4300

/-- What reading a decimal integer finds. -/
inductive DecimalReading where
  /-- The integer. -/
  | value (i : Int)
  /-- A run of more than `intDigitLimit` digits, which is refused before anything after it is
  looked at. -/
  | tooLong (digits : Nat)
  /-- No integer. -/
  | invalid
  deriving Repr, DecidableEq

/-- Whether a character may stand in the run of an integer's digits. -/
def inDigitRun (c : Char) : Bool := isAsciiDigit c || c == '_'

/-- Reads ASCII text as a decimal integer, in the order the checks are made: blanks are skipped,
then a sign; the run of digits and underscores that follows must not start or end with an
underscore nor hold two in a row, and may hold at most `intDigitLimit` digits; then at least one
digit and nothing but blanks after the run are needed. -/
def readDecimal (cs : List Char) : DecimalReading :=
  let (neg, body) := takeSign (cs.dropWhile isAsciiBlank)
  match body with
  | '_' :: _ => .invalid
  | _ =>
    match dropDigitSeparators (body.takeWhile inDigitRun) with
    | none => .invalid
    | some ds =>
      if intDigitLimit < ds.length then .tooLong ds.length
      else if ds.isEmpty || !((body.dropWhile inDigitRun).all isAsciiBlank) then .invalid
      else
        let v : Int := digitsValue ds
        .value (if neg then -v else v)

/-- Reads a text as a decimal integer, or `none` if it is not one or has too many digits. -/
def readInt? (s : String) : Option Int :=
  match readDecimal (toAsciiNumberText s.toList) with
  | .value i => some i
  | _ => none

/-- The value of a character as a digit of a base up to 16, if it is one. -/
def digitIn (base : Nat) (c : Char) : Option Nat :=
  let v :=
    if '0' ≤ c && c ≤ '9' then some (c.toNat - '0'.toNat)
    else if 'a' ≤ c && c ≤ 'f' then some (c.toNat - 'a'.toNat + 10)
    else if 'A' ≤ c && c ≤ 'F' then some (c.toNat - 'A'.toNat + 10)
    else none
  v.filter (· < base)

/-- The letter that may mark a base after a zero: `b`, `o` or `x`. -/
def baseLetter (base : Nat) : Option Char :=
  if base == 2 then some 'b' else if base == 8 then some 'o' else if base == 16 then some 'x'
  else none

/-- Reads digits of a base with single underscores between them: the value, or `none`. -/
def readDigitsIn (base : Nat) : List Char → Option Nat
  | [] => none
  | cs =>
    let rec go : List Char → Nat → Bool → Option Nat
      | [], acc, afterUnderscore => if afterUnderscore then none else some acc
      | '_' :: rest, acc, afterUnderscore => if afterUnderscore then none else go rest acc true
      | c :: rest, acc, _ => (digitIn base c).bind fun d => go rest (acc * base + d) false
    match cs with
    | '_' :: _ => none
    | _ => go cs 0 false

/-- Reads a text as an integer in base 2, 8, 10 or 16: ASCII blanks around, a sign, in bases 2,
8 and 16 an optional marker `0b`, `0o` or `0x` (in either case) that one underscore may follow,
then digits with single underscores between them. -/
def readIntIn? (base : Nat) (s : String) : Option Int :=
  let cs := trimAsciiBlanks (toAsciiNumberText s.toList)
  let (neg, body) := takeSign cs
  let digits :=
    match body, baseLetter base with
    | '0' :: l :: rest, some b =>
      if l.toLower == b then
        match rest with
        | '_' :: r => if r.isEmpty then ['_'] else r
        | r => r
      else body
    | _, _ => body
  (readDigitsIn base digits).map fun v => if neg then -(v : Int) else v


end AccessLog.Number

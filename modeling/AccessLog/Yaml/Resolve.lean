import AccessLog.Yaml.Syntax

/-!
# YAML: resolving the tags of plain scalars

A plain scalar without a tag gets one from its text: the first of the standard kinds whose
pattern matches the whole text — booleans (`yes`, `No`, `TRUE`, `off`, ...), floats (with a dot,
sexagesimal, `.inf`, `.nan`), integers (binary, octal, decimal, hexadecimal, sexagesimal), the
merge key `<<`, null (`~`, `null`, the empty text), timestamps, the value key `=` — and a string
otherwise. Only the kinds that can start with the text's first character are tried, in that
order. A collection without a tag is a sequence or a mapping.

A pattern matches when it reaches the end of the text or a line feed that ends it: the end
anchor of the patterns also matches before a final line feed.

The patterns are written with a few combinators over character lists: each gives every rest of
the input that a match can leave, so that alternatives and repetitions backtrack as the patterns
do.
-/

namespace AccessLog.Yaml

/-- A pattern: every rest of the input that a match of it can leave. -/
abbrev Pat := List Char → List (List Char)

namespace Pat

/-- One character satisfying `p`. -/
def one (p : Char → Bool) : Pat
  | c :: rest => if p c then [rest] else []
  | [] => []

/-- A fixed text. -/
def lit (s : String) : Pat := fun cs =>
  if s.toList.isPrefixOf cs then [cs.drop s.length] else []

/-- One pattern, then another. -/
def seq (a b : Pat) : Pat := fun cs => (a cs).flatMap b

/-- Either of two patterns. -/
def alt (a b : Pat) : Pat := fun cs => a cs ++ b cs

/-- A pattern or nothing. -/
def opt (a : Pat) : Pat := fun cs => a cs ++ [cs]

/-- Any number of characters satisfying `p`. -/
def many (p : Char → Bool) : Pat := fun cs =>
  (List.range ((cs.takeWhile p).length + 1)).map cs.drop

/-- At least one character satisfying `p`. -/
def many1 (p : Char → Bool) : Pat := seq (one p) (many p)

/-- At least one repetition of a pattern that always consumes input, `fuel` repetitions at
most. -/
def repeat1 (a : Pat) : Nat → Pat
  | 0 => fun _ => []
  | fuel + 1 => fun cs =>
    let once := (a cs).filter (·.length < cs.length)
    once ++ once.flatMap (repeat1 a fuel)

/-- Whether a pattern matches a whole text, or the text without one final line feed. -/
def fullMatch (p : Pat) (s : String) : Bool :=
  (p s.toList).any fun r => r.isEmpty || r == ['\n']

end Pat

open Pat

/-- An ASCII digit. -/
def digit (c : Char) : Bool := '0' ≤ c && c ≤ '9'

/-- An ASCII digit or an underscore. -/
def digitOrUnderscore (c : Char) : Bool := digit c || c == '_'

/-- An optional sign. -/
def sign : Pat := opt (one fun c => c == '-' || c == '+')

/-- One of several fixed texts. -/
def anyOf (words : List String) : Pat := fun cs => words.flatMap fun w => lit w cs

/-- One or more sexagesimal places `:d` or `:dd` (the first digit at most 5 when there are two). -/
def sexagesimal (fuel : Nat) : Pat :=
  repeat1 (seq (lit ":") (alt (seq (one fun c => '0' ≤ c && c ≤ '5') (one digit)) (one digit)))
    fuel

/-- Booleans. -/
def boolPat : Pat :=
  anyOf ["yes", "Yes", "YES", "no", "No", "NO", "true", "True", "TRUE", "false", "False", "FALSE",
    "on", "On", "ON", "off", "Off", "OFF"]

/-- An exponent with a sign. -/
def exponent : Pat :=
  seq (one fun c => c == 'e' || c == 'E') (seq (one fun c => c == '-' || c == '+') (many1 digit))

/-- Floats. -/
def floatPat (fuel : Nat) : Pat :=
  alt (seq sign (seq (one digit) (seq (many digitOrUnderscore) (seq (lit ".")
      (seq (many digitOrUnderscore) (opt exponent))))))
  (alt (seq (lit ".") (seq (one digit) (seq (many digitOrUnderscore) (opt exponent))))
  (alt (seq sign (seq (one digit) (seq (many digitOrUnderscore) (seq (sexagesimal fuel)
      (seq (lit ".") (many digitOrUnderscore))))))
  (alt (seq sign (seq (lit ".") (anyOf ["inf", "Inf", "INF"])))
    (seq (lit ".") (anyOf ["nan", "NaN", "NAN"])))))

/-- Integers. -/
def intPat (fuel : Nat) : Pat :=
  alt (seq sign (seq (lit "0b") (many1 fun c => c == '0' || c == '1' || c == '_')))
  (alt (seq sign (seq (lit "0") (many1 fun c => ('0' ≤ c && c ≤ '7') || c == '_')))
  (alt (seq sign (alt (lit "0") (seq (one fun c => '1' ≤ c && c ≤ '9') (many digitOrUnderscore))))
  (alt (seq sign (seq (lit "0x") (many1 fun c =>
      digit c || ('a' ≤ c && c ≤ 'f') || ('A' ≤ c && c ≤ 'F') || c == '_')))
    (seq sign (seq (one fun c => '1' ≤ c && c ≤ '9') (seq (many digitOrUnderscore)
      (sexagesimal fuel)))))))

/-- Nulls. -/
def nullPat : Pat := anyOf ["~", "null", "Null", "NULL", ""]

/-- `n` digits. -/
def digits (n : Nat) : Pat := fun cs =>
  if (cs.take n).length == n && (cs.take n).all digit then [cs.drop n] else []

/-- One or two digits. -/
def digits12 : Pat := seq (one digit) (opt (one digit))

/-- Timestamps: a date, or a date and a time with an optional fraction and zone. -/
def timestampPat : Pat :=
  alt (seq (digits 4) (seq (lit "-") (seq (digits 2) (seq (lit "-") (digits 2)))))
    (seq (digits 4) (seq (lit "-") (seq digits12 (seq (lit "-") (seq digits12
      (seq (alt (one fun c => c == 'T' || c == 't') (many1 fun c => c == ' ' || c == '\t'))
      (seq digits12 (seq (lit ":") (seq (digits 2) (seq (lit ":") (seq (digits 2)
      (seq (opt (seq (lit ".") (many digit)))
      (opt (seq (many fun c => c == ' ' || c == '\t')
        (alt (lit "Z") (seq (one fun c => c == '-' || c == '+') (seq digits12
          (opt (seq (lit ":") (digits 2))))))))))))))))))))

/-- The standard kinds an implicit plain scalar may have: the tag's name, the first characters
its text may start with, and its pattern. -/
def implicitKinds (fuel : Nat) : List (String × String × Pat) :=
  [("bool", "yYnNtTfFoO", boolPat),
   ("float", "-+0123456789.", floatPat fuel),
   ("int", "-+0123456789", intPat fuel),
   ("merge", "<", lit "<<"),
   ("null", "~nN", nullPat),
   ("timestamp", "0123456789", timestampPat),
   ("value", "=", lit "="),
   ("yaml", "!&*", anyOf ["!", "&", "*"])]

/-- The tag of a scalar without one: resolved from its text when it may be resolved as plain,
a string otherwise. -/
def resolveScalar (text : String) (plainImplicit : Bool) : String :=
  if !plainImplicit then standardTag "str"
  else if text.isEmpty then standardTag "null"
  else
    let first := text.toList.headD ' '
    let fuel := text.length
    match (implicitKinds fuel).find? fun (_, starts, p) => starts.toList.contains first &&
        fullMatch p text with
    | some (name, _, _) => standardTag name
    | none => standardTag "str"

end AccessLog.Yaml

import AccessLog.Record
import AccessLog.Regex.Compile
import AccessLog.Number.Order
import AccessLog.Number.Read

/-!
# Filters

A filter expression is three blank-separated tokens: a field, an operator and a value. The
operators compare the field's text with the value:

* `==`, `!=`: equal or not; `==*`, `!=*` compare the case-folded texts;
* `=~`, `!~`: the value, read as a pattern, is found in the text or not; `=~*`, `!~*` compile
  the pattern ignoring case;
* `>`, `>=`, `<`, `<=`: compare the text and the value as plain numbers.

A *plain number* is the text of a float with no digit separator and no blank around it. A filter
is compiled once: the pattern of a regular-expression operator and the number of a numeric one are
made then, and compiling fails on the first problem, checked in the order: three tokens, known
field, operator, value.

A list of filters passes a record when each passes in turn. The first filter that does not pass
decides: a missing field or a field that is not a plain number under a numeric operator is an
error, and otherwise the record is excluded. Later filters are never looked at.

## Main statements

* `Filter.allPass_nil`: no filter passes every record.
* `readPlainNumber_underscore`: a text with an underscore is never a plain number.
-/

namespace AccessLog

open AccessLog.Text AccessLog.Number AccessLog.Regex

/-- A filter operator. -/
inductive Operator where
  /-- `==` -/
  | equal
  /-- `==*` -/
  | equalFolded
  /-- `!=` -/
  | differ
  /-- `!=*` -/
  | differFolded
  /-- `=~` -/
  | found
  /-- `=~*` -/
  | foundFolded
  /-- `!~` -/
  | missed
  /-- `!~*` -/
  | missedFolded
  /-- `>` -/
  | greater
  /-- `>=` -/
  | greaterEqual
  /-- `<` -/
  | less
  /-- `<=` -/
  | lessEqual
  deriving Repr, DecidableEq, Inhabited

namespace Operator

/-- Every operator, in the order they are listed. -/
def all : List Operator :=
  [.equal, .equalFolded, .differ, .differFolded, .found, .foundFolded, .missed, .missedFolded,
    .greater, .greaterEqual, .less, .lessEqual]

/-- The token of an operator in an expression. -/
def token : Operator → String
  | .equal => "=="
  | .equalFolded => "==*"
  | .differ => "!="
  | .differFolded => "!=*"
  | .found => "=~"
  | .foundFolded => "=~*"
  | .missed => "!~"
  | .missedFolded => "!~*"
  | .greater => ">"
  | .greaterEqual => ">="
  | .less => "<"
  | .lessEqual => "<="

/-- The operator written by a token. -/
def ofToken? (t : String) : Option Operator := all.find? (·.token == t)

/-- Whether the operator reads its value as a pattern. -/
def isRegex : Operator → Bool
  | .found | .foundFolded | .missed | .missedFolded => true
  | _ => false

/-- Whether the operator compares numbers. -/
def isNumeric : Operator → Bool
  | .greater | .greaterEqual | .less | .lessEqual => true
  | _ => false

/-- Whether the operator ignores case: its token ends in `*`. -/
def ignoresCase (op : Operator) : Bool := op.token.endsWith "*"

end Operator

/-- Why a text is not a plain number. -/
inductive NumberFault where
  /-- It has a digit separator or blanks around it. -/
  | notPlain (text : String)
  /-- It is not the text of a float. -/
  | notFloat (text : String)
  deriving Repr, DecidableEq

/-- The message of a number fault. -/
def NumberFault.message : NumberFault → String
  | .notPlain s => "not a plain number: " ++ quote s
  | .notFloat s => "could not convert string to float: " ++ quote s

/-- Reads a plain number: the text of a float without digit separators or surrounding blanks. -/
def readPlainNumber (s : String) : Except NumberFault Float :=
  if s.contains '_' || trimBlanks s != s then .error (.notPlain s)
  else match readFloat? s with
    | some x => .ok x
    | none => .error (.notFloat s)

theorem readPlainNumber_underscore (s : String) (h : s.contains '_' = true) :
    readPlainNumber s = .error (.notPlain s) := by
  simp [readPlainNumber, h]

/-- What a filter prepared when it was compiled. -/
inductive Prepared where
  /-- Nothing: the value is compared as text. -/
  | text
  /-- The compiled pattern of a regular-expression operator. -/
  | regex (p : Pattern)
  /-- The number of a numeric operator. -/
  | number (x : Float)
  deriving Inhabited

/-- A compiled filter. -/
structure Filter where
  /-- The field the filter reads. -/
  field : String
  /-- The operator. -/
  op : Operator
  /-- The value as written. -/
  value : String
  /-- The whole expression as written. -/
  expression : String
  /-- What was prepared from the value. -/
  prepared : Prepared
  deriving Inhabited

namespace Filter

/-- The number a numeric filter compares with. -/
def number? (f : Filter) : Option Float :=
  match f.prepared with
  | .number x => some x
  | _ => none

/-- Compiles an expression; `known` lists the fields the decoder produces, when known. -/
def compile (expression : String) (known : Option (List String)) : Except Error Filter :=
  match splitBlanks expression with
  | [name, tok, value] =>
    if known.any (fun ks => !ks.contains name) then
      .error (.expression (.unknownField name) expression)
    else match Operator.ofToken? tok with
      | none => .error (.expression (.unknownOperator tok) expression)
      | some op =>
        let mk (p : Prepared) : Filter := ⟨name, op, value, expression, p⟩
        if op.isRegex then
          match Pattern.compile value { ignoreCase := op.ignoresCase } with
          | .ok p => .ok (mk (.regex p))
          | .error (.malformed e) =>
            .error (.expression (.invalidRegex value (e.text value)) expression)
          | .error (.overflow m) => .error (.overflow m)
          | .error (.incompatible m) => .error (.incompatibleFlags m)
          | .error .invalidCode => .error (.engine (CompileError.invalidCode.text value))
          | .error .tooDeep => .error (.recursion (CompileError.tooDeep.text value))
        else if op.isNumeric then
          match readPlainNumber value with
          | .ok x => .ok (mk (.number x))
          | .error _ => .error (.expression (.invalidNumber value) expression)
        else .ok (mk .text)
  | ts => .error (.expression (.malformed ts.length) expression)

/-- Compiles an expression given as any value; only text has the blanks to split at. -/
def compileValue (v : Value) (known : Option (List String)) : Except Error Filter :=
  match v with
  | .str s => compile s known
  | _ => .error (.value (.noAttribute
      ("'" ++ v.qualifiedKindName ++ "' object has no attribute 'split'")))

/-- Compiles expressions in order, failing on the first that does not compile. -/
def compileAll (known : Option (List String)) : List Value → Except Error (List Filter)
  | [] => .ok []
  | v :: rest => do
    let f ← compileValue v known
    let fs ← compileAll known rest
    pure (f :: fs)

/-- Why a filter cannot test a field's text. -/
inductive TestFault where
  /-- A numeric filter met a text that is not a plain number. -/
  | notNumber (fault : NumberFault)
  /-- A pattern filter found a match that cannot be reported. -/
  | unreportable
  deriving Inhabited

/-- Whether a pattern matches somewhere in a text. -/
def matchesIn (p : Pattern) (text : String) : Except TestFault Bool :=
  match p.search text with
  | .ok m => .ok m.isSome
  | .error _ => .error .unreportable

/-- A field's text read as a plain number. -/
def numberIn (text : String) : Except TestFault Float :=
  (readPlainNumber text).mapError .notNumber

/-- Whether a field's text passes the filter; a numeric filter fails on a text that is not a
plain number. -/
def test (f : Filter) (actual : String) : Except TestFault Bool :=
  match f.op, f.prepared with
  | .equal, _ => .ok (actual == f.value)
  | .differ, _ => .ok (actual != f.value)
  | .equalFolded, _ => .ok (caseFold actual == caseFold f.value)
  | .differFolded, _ => .ok (caseFold actual != caseFold f.value)
  | .found, .regex p | .foundFolded, .regex p => matchesIn p actual
  | .missed, .regex p | .missedFolded, .regex p => (matchesIn p actual).map (!·)
  | .greater, .number y => (numberIn actual).map fun x => floatLt y x
  | .greaterEqual, .number y => (numberIn actual).map fun x => floatLe y x
  | .less, .number y => (numberIn actual).map fun x => floatLt x y
  | .lessEqual, .number y => (numberIn actual).map fun x => floatLe x y
  | _, _ => .ok false

/-- Whether a record passes the filter, as an error when it cannot be applied. -/
def passes (f : Filter) (r : Record) (line : Option Int) : Except Error Bool :=
  match r.get f.field with
  | none => .error (.line (.fieldMissing f.field f.expression) line "")
  | some actual =>
    match f.test actual with
    | .ok b => .ok b
    | .error (.notNumber _) => .error (.line (.notNumeric f.field actual f.expression) line "")
    | .error .unreportable => .error .groupSpan

/-- Whether a record passes every filter, trying them in order and stopping at the first that
does not pass. -/
def allPass (r : Record) (line : Option Int) : List Filter → Except Error Bool
  | [] => .ok true
  | f :: fs => do
    if ← f.passes r line then allPass r line fs else pure false

theorem allPass_nil (r : Record) (line : Option Int) : allPass r line [] = .ok true := rfl

end Filter

end AccessLog

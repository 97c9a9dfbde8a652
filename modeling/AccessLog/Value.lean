import AccessLog.Number.Text
import AccessLog.Number.Read
import AccessLog.Text.Quoted

/-!
# Configuration values

A configuration arrives as a tree of loosely typed values: from a YAML document, from a decoded
JSON object, or from options handed over as they are. `Value` is that tree: null, booleans,
integers of any size, floats, strings, lists, tuples, mappings in insertion order, calendar
dates and timestamps, byte strings and sets.

The operations here are the ones the configuration code applies to such values, each with the
failure it reports on a value of the wrong kind:

* **truth**: null, `false`, zero, the empty string and empty collections are false;
* **iteration**: the items of a list, tuple or set, the keys of a mapping, the characters of a
  string, the bytes of a byte string;
* **integer conversion**: integers stay, booleans are `0` and `1`, floats are cut toward zero,
  strings are read as decimal integers;
* **text**: the quoted literal (`Value.literal`) and the plain text (`Value.text`).

Two values are *equal as keys* (`Value.keyEq`) as numbers when both are numbers (booleans
count as `0` and `1`), and structurally otherwise; a key is also equal to the very same object.
That matters for NaN, which is not equal to itself as a number: the YAML loader hands out one
shared NaN object for `.nan`, so two such keys are one key, while every other NaN is a new object
equal to no key.

A value may be one object met at several places: a collection that contains itself, or the
shared NaN. Such a value is `.shared name v`, and inside `v` each place where it is met again is
`.cycle name`. Taking a part out of it (`peel`) puts the whole back at those places, so that every
part stands on its own. Its literal shows `[...]`, `{...}` or `(...)` where a collection is met
again inside itself.
-/

namespace AccessLog

open AccessLog.Number AccessLog.Text

/-- A timestamp: date, time of day, microseconds and an optional offset from UTC in seconds. -/
structure Timestamp where
  /-- Calendar year. -/
  year : Nat
  /-- Month, `1` to `12`. -/
  month : Nat
  /-- Day of the month. -/
  day : Nat
  /-- Hour, `0` to `23`. -/
  hour : Nat
  /-- Minute. -/
  minute : Nat
  /-- Second. -/
  second : Nat
  /-- Microsecond. -/
  micro : Nat
  /-- Offset from UTC in seconds, when one is given. -/
  offset : Option Int
  deriving Repr, DecidableEq

/-- A loosely typed configuration value. -/
inductive Value where
  /-- No value. -/
  | none
  /-- A boolean. -/
  | bool (b : Bool)
  /-- An integer of any size. -/
  | int (i : Int)
  /-- A binary64 float. -/
  | float (x : Float)
  /-- A string. -/
  | str (s : String)
  /-- A list. -/
  | list (items : List Value)
  /-- A tuple. -/
  | tuple (items : List Value)
  /-- A mapping, in insertion order. -/
  | dict (entries : List (Value × Value))
  /-- A calendar date. -/
  | date (year month day : Nat)
  /-- A timestamp. -/
  | timestamp (t : Timestamp)
  /-- A byte string. -/
  | bytes (data : List Nat)
  /-- A set, in the order it is visited. -/
  | set (items : List Value)
  /-- A value that is one object wherever it occurs, named `name`: a collection that contains
  itself, where each `.cycle name` inside stands for the whole, or the NaN the YAML loader
  shares. -/
  | shared (name : Nat) (v : Value)
  /-- The shared value named `name` around this place, met again inside itself. -/
  | cycle (name : Nat)
  deriving Inhabited

/-- A failure of an operation on a value of the wrong kind or content. -/
inductive ValueFault where
  /-- The operation does not apply to this kind of value. -/
  | wrongType (message : String)
  /-- The value has the right kind but unusable content. -/
  | badContent (message : String)
  /-- The value has no such attribute. -/
  | noAttribute (message : String)
  /-- The value is too large for the conversion. -/
  | overflow (message : String)
  /-- The value is absent from a mapping. -/
  | missingKey (message : String)
  /-- An index lies outside a sequence. -/
  | outOfRange (message : String)
  deriving Repr, DecidableEq

/-- The text of a fault. -/
def ValueFault.message : ValueFault → String
  | .wrongType m | .badContent m | .noAttribute m | .overflow m | .missingKey m
  | .outOfRange m => m

namespace Value

/-- The short name of a value's kind, as messages about configuration files show it. -/
def kindName : Value → String
  | .none => "NoneType"
  | .bool _ => "bool"
  | .int _ => "int"
  | .float _ => "float"
  | .str _ => "str"
  | .list _ => "list"
  | .tuple _ => "tuple"
  | .dict _ => "dict"
  | .date .. => "date"
  | .timestamp _ => "datetime"
  | .bytes _ => "bytes"
  | .set _ => "set"
  | .shared _ v => v.kindName
  | .cycle _ => "list"

/-- The full name of a value's kind, as messages about failed operations show it. -/
def qualifiedKindName : Value → String
  | .date .. => "datetime.date"
  | .timestamp _ => "datetime.datetime"
  | .shared _ v => v.qualifiedKindName
  | v => v.kindName

mutual
/-- Puts `whole` for each `.cycle name` in a value, except inside another sharing of `name`. -/
def fill (name : Nat) (whole : Value) : Value → Value
  | .cycle n => if n == name then whole else .cycle n
  | .shared n v => if n == name then .shared n v else .shared n (fill name whole v)
  | .list xs => .list (fillList name whole xs)
  | .tuple xs => .tuple (fillList name whole xs)
  | .set xs => .set (fillList name whole xs)
  | .dict kvs => .dict (fillPairs name whole kvs)
  | v => v

/-- `fill` on each value of a list. -/
def fillList (name : Nat) (whole : Value) : List Value → List Value
  | [] => []
  | x :: rest => fill name whole x :: fillList name whole rest

/-- `fill` on each key and value of mapping entries. -/
def fillPairs (name : Nat) (whole : Value) : List (Value × Value) → List (Value × Value)
  | [] => []
  | (k, v) :: rest => (fill name whole k, fill name whole v) :: fillPairs name whole rest
end

/-- The value a shared value is, its parts standing on their own: each `.cycle` of it becomes
the shared value again. Any other value is itself. -/
def peel : Value → Value
  | .shared n v => fill n (.shared n v) v
  | v => v

/-- Truth of a value. -/
def truthy : Value → Bool
  | .none => false
  | .bool b => b
  | .int i => i != 0
  | .float x => !(x == 0.0)
  | .str s => !s.isEmpty
  | .list xs | .tuple xs | .set xs => !xs.isEmpty
  | .dict kvs => !kvs.isEmpty
  | .date .. | .timestamp _ => true
  | .bytes bs => !bs.isEmpty
  | .shared _ v => v.truthy
  | .cycle _ => true

/-- The kind of the first part of a value that cannot be hashed, if any, the shared values
around it being `around`, by name and kind. -/
def unhashableKindIn (around : List (Nat × String)) : Value → Option String
  | .list _ => some "list"
  | .dict _ => some "dict"
  | .set _ => some "set"
  | .tuple xs => xs.attach.findSome? fun ⟨x, _⟩ => x.unhashableKindIn around
  | .shared n v => v.unhashableKindIn ((n, v.kindName) :: around)
  | .cycle n => some ((around.lookup n).getD "list")
  | _ => Option.none

/-- The kind of the first part of a value that cannot be hashed, if any. -/
def unhashableKind (v : Value) : Option String := v.unhashableKindIn []

/-- Whether a value can be a mapping key or a set member. -/
def hashable (v : Value) : Bool := v.unhashableKind.isNone

/-- The fault of hashing a value that cannot be hashed. -/
def unhashable (kind : String) : ValueFault := .wrongType ("unhashable type: '" ++ kind ++ "'")

/-- The number a value stands for when compared as a key: booleans, integers and integral
floats compare as integers. -/
def asKeyInt : Value → Option Int
  | .bool b => some (if b then 1 else 0)
  | .int i => some i
  | .float x =>
    match view x with
    | .finite neg m e =>
      let t := truncate neg m e
      if 0 ≤ e then some t
      else if m % Nat.pow 2 (-e).toNat == 0 then some t else Option.none
    | _ => Option.none
  | .shared _ v => v.asKeyInt
  | _ => Option.none

/-- The name of the NaN the YAML loader shares among all its `.nan` values. -/
def sharedNaNName : Nat := 0

mutual
/-- Equality of two values as keys: the same shared object, or equal values. -/
def keyEq : Value → Value → Bool
  | .shared i a, .shared j b => i == j || keyEq a b
  | .shared _ a, b => keyEq a b
  | a, .shared _ b => keyEq a b
  | .none, .none => true
  | .str a, .str b => a == b
  | .float a, .float b => a == b
  | .tuple xs, .tuple ys => keyEqList xs ys
  | .date a b c, .date d e f => a == d && b == e && c == f
  | .timestamp a, .timestamp b => a == b
  | .bytes a, .bytes b => a == b
  | a, b =>
    match a.asKeyInt, b.asKeyInt with
    | some i, some j => i == j
    | _, _ => false
  termination_by a b => sizeOf a + sizeOf b

/-- Equality of two lists of values as keys, item by item. -/
def keyEqList : List Value → List Value → Bool
  | [], [] => true
  | x :: xs, y :: ys => keyEq x y && keyEqList xs ys
  | _, _ => false
  termination_by xs ys => sizeOf xs + sizeOf ys
end

/-- Two digits of a date or time field. -/
def twoDigits (n : Nat) : String := padLeft 2 (natText n)

/-- The text of a UTC offset, `+hh:mm` or `-hh:mm`, with seconds when there are some. -/
def offsetText (off : Int) : String :=
  let sign := if off < 0 then "-" else "+"
  let a := off.natAbs
  let base := sign ++ twoDigits (a / 3600) ++ ":" ++ twoDigits (a / 60 % 60)
  if a % 60 == 0 then base else base ++ ":" ++ twoDigits (a % 60)

/-- The ISO text of a date. -/
def dateText (y m d : Nat) : String :=
  padLeft 4 (natText y) ++ "-" ++ twoDigits m ++ "-" ++ twoDigits d

/-- The text of a timestamp: date, a space, time, microseconds when non-zero, offset. -/
def timestampText (t : Timestamp) : String :=
  let time := twoDigits t.hour ++ ":" ++ twoDigits t.minute ++ ":" ++ twoDigits t.second
  let micro := if t.micro == 0 then "" else "." ++ padLeft 6 (natText t.micro)
  let off := match t.offset with | some o => offsetText o | Option.none => ""
  dateText t.year t.month t.day ++ " " ++ time ++ micro ++ off

/-- The constructor text of a fixed offset: `datetime.timezone(datetime.timedelta(...))`. -/
def offsetLiteral (off : Int) : String :=
  if off == 0 then "datetime.timezone.utc"
  else
    let days := off.fdiv 86400
    let secs := off.fmod 86400
    let parts := (if days == 0 then [] else ["days=" ++ intText days]) ++
      (if secs == 0 then [] else ["seconds=" ++ intText secs])
    "datetime.timezone(datetime.timedelta(" ++ ", ".intercalate parts ++ "))"

/-- The constructor text of a timestamp, trailing zero fields of the time left out. -/
def timestampLiteral (t : Timestamp) : String :=
  let fields := [t.year, t.month, t.day, t.hour, t.minute, t.second, t.micro]
  let shown :=
    if t.micro != 0 then fields
    else if t.second != 0 then fields.take 6
    else fields.take 5
  let base := ", ".intercalate (shown.map natText)
  let tz := match t.offset with | some o => ", tzinfo=" ++ offsetLiteral o | Option.none => ""
  "datetime.datetime(" ++ base ++ tz ++ ")"

/-- The literal of a byte string: `b'...'`, printable ASCII as itself. -/
def bytesLiteral (bs : List Nat) : String :=
  let q : Char := if bs.contains 39 && !bs.contains 34 then '"' else '\''
  let body := bs.flatMap fun b =>
    let c := Char.ofNat b
    if b == 92 then ['\\', '\\']
    else if c == q then ['\\', q]
    else if b == 9 then ['\\', 't']
    else if b == 10 then ['\\', 'n']
    else if b == 13 then ['\\', 'r']
    else if b < 32 || 127 ≤ b then ['\\', 'x'] ++ hexDigits 2 b
    else [c]
  "b" ++ String.ofList (q :: body ++ [q])

/-- What a collection shows when it is met again inside itself. -/
def placeholder : Value → String
  | .dict _ => "\x7b...\x7d"
  | .tuple _ => "(...)"
  | .set _ => "set(...)"
  | .shared _ v => placeholder v
  | _ => "[...]"

mutual
/-- The quoted literal of a value, as messages show it, inside the shared values `around`
(by name, with their placeholders): a shared value met again inside itself shows its
placeholder. -/
def literalIn (around : List (Nat × String)) : Value → String
  | .none => "None"
  | .bool b => if b then "True" else "False"
  | .int i => intText i
  | .float x => shortestText x
  | .str s => quote s
  | .list xs => "[" ++ literalList around xs ++ "]"
  | .tuple [x] => "(" ++ literalIn around x ++ ",)"
  | .tuple xs => "(" ++ literalList around xs ++ ")"
  | .dict kvs => "\x7b" ++ literalPairs around kvs ++ "\x7d"
  | .date y m d => "datetime.date(" ++ natText y ++ ", " ++ natText m ++ ", " ++ natText d ++ ")"
  | .timestamp t => timestampLiteral t
  | .bytes bs => bytesLiteral bs
  | .set xs => if xs.isEmpty then "set()" else "\x7b" ++ literalList around xs ++ "\x7d"
  | .shared n v =>
    match around.lookup n with
    | some shown => shown
    | Option.none => literalIn ((n, placeholder v) :: around) v
  | .cycle n => (around.lookup n).getD "[...]"

/-- The literals of several values, separated by commas. -/
def literalList (around : List (Nat × String)) : List Value → String
  | [] => ""
  | [x] => literalIn around x
  | x :: rest => literalIn around x ++ ", " ++ literalList around rest

/-- The literals of mapping entries, `key: value`, separated by commas. -/
def literalPairs (around : List (Nat × String)) : List (Value × Value) → String
  | [] => ""
  | [(k, v)] => literalIn around k ++ ": " ++ literalIn around v
  | (k, v) :: rest =>
    literalIn around k ++ ": " ++ literalIn around v ++ ", " ++ literalPairs around rest
end

/-- The quoted literal of a value, as messages show it. -/
def literal (v : Value) : String := literalIn [] v

/-- Whether a value is a list, tuple, mapping or set. -/
def isCollection : Value → Bool
  | .list _ | .tuple _ | .dict _ | .set _ => true
  | .shared _ v => v.isCollection
  | _ => false

mutual
/-- Whether a value holds a collection that contains itself, so that walking into every part of
it never ends. -/
def containsItself : Value → Bool
  | .list xs | .tuple xs | .set xs => containsItselfList xs
  | .dict kvs => containsItselfPairs kvs
  | .shared _ v => v.isCollection
  | .cycle _ => true
  | _ => false

/-- Whether one of several values holds a collection that contains itself. -/
def containsItselfList : List Value → Bool
  | [] => false
  | x :: rest => containsItself x || containsItselfList rest

/-- Whether a key or value of mapping entries holds a collection that contains itself. -/
def containsItselfPairs : List (Value × Value) → Bool
  | [] => false
  | (k, v) :: rest => containsItself k || containsItself v || containsItselfPairs rest
end

/-- The plain text of a value: a string is itself, a date or timestamp its ISO text, anything
else its literal. -/
def text : Value → String
  | .str s => s
  | .date y m d => dateText y m d
  | .timestamp t => timestampText t
  | v => v.literal

/-- The items a value yields when iterated. -/
def items (v : Value) : Except ValueFault (List Value) :=
  match v.peel with
  | .list xs | .tuple xs | .set xs => .ok xs
  | .dict kvs => .ok (kvs.map (·.1))
  | .str s => .ok (s.toList.map fun c => .str (String.singleton c))
  | .bytes bs => .ok (bs.map fun (b : Nat) => Value.int (Int.ofNat b))
  | w => .error (.wrongType ("'" ++ w.qualifiedKindName ++ "' object is not iterable"))

/-- The message for a text that is no decimal integer; the literal is cut to 200 characters. -/
def intLiteralMessage (s : String) : String :=
  "invalid literal for int() with base 10: " ++ String.ofList ((quote s).toList.take 200)

/-- The message for a decimal integer text of `n` digits, more than the limit allows. -/
def intLimitMessage (n : Nat) : String :=
  "Exceeds the limit (" ++ natText intDigitLimit ++ " digits) for integer string conversion: " ++
    "value has " ++ natText n ++ " digits; use sys.set_int_max_str_digits() to increase the limit"

/-- The integer a value converts to. A text is read as ASCII (see `toAsciiNumberText`), bytes as
they are, so that only ASCII blanks surround their digits. -/
def toInt : Value → Except ValueFault Int
  | .bool b => .ok (if b then 1 else 0)
  | .int i => .ok i
  | .float x =>
    match view x with
    | .finite neg m e => .ok (truncate neg m e)
    | .infinity _ => .error (.overflow "cannot convert float infinity to integer")
    | .nan => .error (.badContent "cannot convert float NaN to integer")
  | .str s =>
    match readDecimal (toAsciiNumberText s.toList) with
    | .value i => .ok i
    | .tooLong n => .error (.badContent (intLimitMessage n))
    | .invalid => .error (.badContent (intLiteralMessage s))
  | .bytes bs =>
    match readDecimal (bs.map Char.ofNat) with
    | .value i => .ok i
    | .tooLong n => .error (.badContent (intLimitMessage n))
    | .invalid =>
      .error (.badContent ("invalid literal for int() with base 10: " ++
        String.ofList ((bytesLiteral (bs.take 200)).toList.take 200)))
  | .shared _ v => v.toInt
  | v => .error (.wrongType ("int() argument must be a string, a bytes-like object or a real " ++
      "number, not '" ++ v.qualifiedKindName ++ "'"))

/-- The entry of a mapping under a key equal to `k`, the last one if several are. -/
def lookup (kvs : List (Value × Value)) (k : Value) : Option Value :=
  (kvs.reverse.find? fun kv => keyEq kv.1 k).map (·.2)

/-- `v.get(key, default)`: the entry of a mapping, or the default; no other value has it. -/
def getOr (v : Value) (key : String) (default : Value) : Except ValueFault Value :=
  match v.peel with
  | .dict kvs => .ok ((lookup kvs (.str key)).getD default)
  | _ => .error (.noAttribute ("'" ++ v.qualifiedKindName ++ "' object has no attribute 'get'"))

/-- Whether a string key is in a value: an entry of a mapping, an item of a list, tuple or
set, or a substring of a string. -/
def containsKey (v : Value) (key : String) : Except ValueFault Bool :=
  match v.peel with
  | .dict kvs => .ok ((lookup kvs (.str key)).isSome)
  | .list xs | .tuple xs | .set xs => .ok (xs.any fun x => keyEq x (.str key))
  | .str s => .ok ((s.splitOn key).length > 1 || key.isEmpty)
  | .bytes _ => .error (.wrongType "a bytes-like object is required, not 'str'")
  | _ => .error (.wrongType ("argument of type '" ++ v.qualifiedKindName ++ "' is not iterable"))

/-- `v[key]` for a string key. -/
def index (v : Value) (key : String) : Except ValueFault Value :=
  match v.peel with
  | .dict kvs =>
    match lookup kvs (.str key) with
    | some x => .ok x
    | Option.none => .error (.missingKey (quote key))
  | .str _ => .error (.wrongType "string indices must be integers, not 'str'")
  | .list _ => .error (.wrongType "list indices must be integers or slices, not str")
  | .tuple _ => .error (.wrongType "tuple indices must be integers or slices, not str")
  | .bytes _ => .error (.wrongType "byte indices must be integers or slices, not str")
  | _ => .error (.wrongType ("'" ++ v.qualifiedKindName ++ "' object is not subscriptable"))

end Value

end AccessLog

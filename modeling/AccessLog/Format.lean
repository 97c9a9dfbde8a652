import AccessLog.Json
import AccessLog.Record

/-!
# Line formats

A line format writes one record as text, without a final line feed. It is given the names and the
values of the record, the line number, whether the first field is that line number, and whether
this is the first record written by the parse.

* `json`: one compact JSON object, non-ASCII characters kept;
* `pretty_json`: the same object indented by two spaces per level;
* `key_value`: `name="value"` pairs separated by spaces, each value a JSON string;
* `ltsv`: `name:value` pairs separated by tabs, an empty value written `-`;
* `tsv`: the values separated by tabs, an empty value written `-`, with a header row of the names
  before the first record.

Names and values are paired in order, as far as both lists go; the rows of `tsv` take each list
whole. An object keeps the first place of a repeated name and its last value.

## Main statements

* `Format.ofName?_name`: every format is found by its name.
* `labeledText_nil`: the `ltsv` text of no field is empty.
-/

namespace AccessLog

/-- A registered line format. -/
inductive Format where
  /-- A compact JSON object. -/
  | json
  /-- An indented JSON object. -/
  | prettyJson
  /-- `name="value"` pairs. -/
  | keyValue
  /-- Labeled tab-separated values. -/
  | labeled
  /-- Tab-separated values with a header row. -/
  | tabular
  deriving Repr, DecidableEq, Inhabited

/-- The text standing for an empty value in tab-separated formats. -/
def emptyValueMark : String := "-"

/-- A value as written in a tab-separated format. -/
def markEmpty (v : String) : String := if v.isEmpty then emptyValueMark else v

/-- The object of paired names and values. -/
def pairObject (names values : List String) : Json :=
  Json.ofStrings (mergeRepeated (names.zip values))

/-- The `ltsv` text of paired names and values. -/
def labeledText (names values : List String) : String :=
  "\t".intercalate ((names.zip values).map fun (n, v) => n ++ ":" ++ markEmpty v)

theorem labeledText_nil (values : List String) : labeledText [] values = "" := rfl

namespace Format

/-- Every format, in the order they are registered. -/
def all : List Format := [.json, .prettyJson, .keyValue, .labeled, .tabular]

/-- The name a format is registered under. -/
def name : Format → String
  | .json => "json"
  | .prettyJson => "pretty_json"
  | .keyValue => "key_value"
  | .labeled => "ltsv"
  | .tabular => "tsv"

/-- The format registered under a name. -/
def ofName? (n : String) : Option Format := all.find? (·.name == n)

theorem ofName?_name (f : Format) : ofName? f.name = some f := by
  cases f <;> rfl

/-- The registered names, sorted. -/
def names : List String := (all.map name).mergeSort (fun a b => decide (a ≤ b))

/-- The format registered under a name, or the error listing the registered names. -/
def lookup (n : String) : Except Error Format :=
  match ofName? n with
  | some f => .ok f
  | none => .error (.unknownFormat n (all.map name))

/-- The text of a record in a format. -/
def render (f : Format) (names values : List String) (_index : Int)
    (_hasLineNumber : Bool) (isFirst : Bool) : String :=
  match f with
  | .json => (pairObject names values).write JsonLayout.compact
  | .prettyJson => (pairObject names values).write (JsonLayout.indented 2)
  | .keyValue =>
    " ".intercalate ((names.zip values).map fun (n, v) => n ++ "=" ++ escapeString false v)
  | .labeled => labeledText names values
  | .tabular =>
    let row := "\t".intercalate (values.map markEmpty)
    if isFirst then "\t".intercalate names ++ "\n" ++ row else row

end Format

end AccessLog

import AccessLog.Error

/-!
# Records

A decoded log line is a `Record`: a list of fields, each a name with its text value, in the order
the decoder gives them (the order of the capture groups of a pattern, or the order of the labels
of a line). Decoders never repeat a name, but a record built by hand may, and every operation says
which of the repeated fields it sees:

* `get` reads the first field of a name;
* `select` projects onto requested names, in the requested order, reading the *last* field of
  each name and leaving out names the record lacks;
* `toPairs` keeps the first place of a name and its last value.

A record is made from two parallel lists only when their lengths agree.

## Main statements

* `Record.names_ofLists`, `Record.values_ofLists`: the lists come back unchanged.
* `Record.length_select`: a projection has at most as many fields as it was asked for.
-/

namespace AccessLog

open AccessLog.Number

/-- A decoded line: named text fields in order. -/
structure Record where
  /-- The fields, in order. -/
  fields : List (String × String)
  deriving Repr, DecidableEq, Inhabited

/-- The name of the field holding a line's number. -/
def lineNumberField : String := "no"

/-- Pairs in order, where the last value of a repeated key wins and the key keeps its first
place. -/
def mergeRepeated (members : List (String × String)) : List (String × String) :=
  members.foldl (fun acc (k, v) =>
    if acc.any (·.1 == k) then acc.map fun (k', v') => if k' == k then (k', v) else (k', v')
    else acc ++ [(k, v)]) []

namespace Record

/-- The field names in order. -/
def names (r : Record) : List String := r.fields.map (·.1)

/-- The field values in order. -/
def values (r : Record) : List String := r.fields.map (·.2)

/-- The record of parallel name and value lists. -/
def ofLists (names values : List String) : Except Error Record :=
  if names.length = values.length then .ok ⟨names.zip values⟩
  else .error (.recordShape names.length values.length)

theorem names_ofLists {ns vs : List String} {r : Record} (h : ofLists ns vs = .ok r) :
    r.names = ns := by
  unfold ofLists at h
  split at h
  · cases h; simp [names, List.map_fst_zip, *]
  · cases h

theorem values_ofLists {ns vs : List String} {r : Record} (h : ofLists ns vs = .ok r) :
    r.values = vs := by
  unfold ofLists at h
  split at h
  · rename_i hl; cases h; simp [values, List.map_snd_zip, hl]
  · cases h

/-- The number of fields. -/
def size (r : Record) : Nat := r.fields.length

/-- The value of the first field called `name`. -/
def get (r : Record) (name : String) : Option String :=
  (r.fields.find? (·.1 == name)).map (·.2)

/-- Whether some field is called `name`. -/
def contains (r : Record) (name : String) : Bool := r.fields.any (·.1 == name)

/-- The value of the last field called `name`. -/
def lastValue (r : Record) (name : String) : Option String :=
  (r.fields.reverse.find? (·.1 == name)).map (·.2)

/-- The projection onto `labels`: one field per label the record carries, in label order. -/
def select (r : Record) (labels : List String) : Record :=
  ⟨labels.filterMap fun l => (r.lastValue l).map fun v => (l, v)⟩

theorem length_select (r : Record) (labels : List String) :
    (r.select labels).size ≤ labels.length := by
  simp only [select, size]
  exact List.length_filterMap_le _ _

/-- The record with a leading field holding the line number `n`. -/
def withLineNumber (r : Record) (n : Int) : Record :=
  ⟨(lineNumberField, intText n) :: r.fields⟩

theorem names_withLineNumber (r : Record) (n : Int) :
    (r.withLineNumber n).names = lineNumberField :: r.names := rfl

/-- The mapping of names to values: first place of a name, last value. -/
def toPairs (r : Record) : List (String × String) := mergeRepeated r.fields

end Record

end AccessLog

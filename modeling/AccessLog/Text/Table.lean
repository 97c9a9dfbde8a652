/-!
# Code-point tables

Which characters are digits, letters or printable, and how a character changes case, is data of
the Unicode standard rather than a rule. This module holds the two shapes that data takes here,
and the look-ups on them:

* a **range table**: sorted, disjoint, closed intervals of code points, read by binary search;
* a **map table**: sorted code points, each with the list of code points it maps to.

Both are written as compact hexadecimal text (`"41-5a,61-7a"` and `"41:61,df:73.73"`), so that
each table is a single literal, decoded once when first used.

## Main statements

* `RangeTable.contains_ofList_nil`: the empty table contains nothing.
-/

namespace AccessLog.Text

/-- The value of a hexadecimal digit, either case; any other character counts as zero. -/
def hexDigitValue (c : Char) : Nat :=
  if '0' ≤ c ∧ c ≤ '9' then c.toNat - '0'.toNat
  else if 'a' ≤ c ∧ c ≤ 'f' then c.toNat - 'a'.toNat + 10
  else if 'A' ≤ c ∧ c ≤ 'F' then c.toNat - 'A'.toNat + 10
  else 0

/-- Reads a hexadecimal numeral, digit by digit from the left. -/
def readHex (s : String) : Nat :=
  s.foldl (fun n c => n * 16 + hexDigitValue c) 0

/-- Sorted, disjoint, closed intervals of code points. -/
structure RangeTable where
  /-- The intervals `(first, last)`, in increasing order. -/
  ranges : Array (Nat × Nat)

namespace RangeTable

/-- Decodes `"a-b,c,..."`: each item is one code point or an interval of them. -/
def ofHex (s : String) : RangeTable :=
  ⟨((s.splitOn ",").filter (· ≠ "")).toArray.map fun item =>
    match item.splitOn "-" with
    | [a, b] => (readHex a, readHex b)
    | _ => (readHex item, readHex item)⟩

/-- A table from a list of intervals. -/
def ofList (rs : List (Nat × Nat)) : RangeTable := ⟨rs.toArray⟩

/-- Binary search over the half-open slice `[lo, hi)` of the intervals. -/
def search (t : RangeTable) (c lo hi : Nat) : Bool :=
  if _h : lo < hi then
    let mid := (lo + hi) / 2
    match t.ranges[mid]? with
    | some (a, b) =>
      if c < a then t.search c lo mid
      else if b < c then t.search c (mid + 1) hi
      else true
    | none => false
  else false
termination_by hi - lo

/-- Whether a code point lies in one of the intervals. -/
def contains (t : RangeTable) (c : Nat) : Bool :=
  t.search c 0 t.ranges.size

/-- Whether a character lies in one of the intervals. -/
def has (t : RangeTable) (c : Char) : Bool :=
  t.contains c.toNat

/-- Binary search for the first interval of the slice `[lo, hi)` that ends at `a` or later. -/
def firstEndingFrom (t : RangeTable) (a lo hi : Nat) : Nat :=
  if _h : lo < hi then
    let mid := (lo + hi) / 2
    match t.ranges[mid]? with
    | some (_, e) => if e < a then t.firstEndingFrom a (mid + 1) hi else t.firstEndingFrom a lo mid
    | none => hi
  else lo
termination_by hi - lo

/-- Whether an interval of the table meets the interval from `a` to `b`: the first one ending at
`a` or later must start at `b` or before. -/
def meets (t : RangeTable) (a b : Nat) : Bool :=
  match t.ranges[t.firstEndingFrom a 0 t.ranges.size]? with
  | some (s, _) => a ≤ b && s ≤ b
  | none => false

theorem contains_ofList_nil (c : Nat) : (ofList []).contains c = false := by
  simp [contains, ofList, search]

end RangeTable

/-- Sorted code points, each with the code points it maps to. -/
structure MapTable where
  /-- The mapped code points, in increasing order. -/
  keys : Array Nat
  /-- The image of each key, at the key's index. -/
  images : Array (List Nat)

namespace MapTable

/-- Decodes `"k:v.v,..."`: each item is a key and the dot-separated code points of its image. -/
def ofHex (s : String) : MapTable :=
  let items := ((s.splitOn ",").filter (· ≠ "")).toArray.map fun item =>
    match item.splitOn ":" with
    | [k, v] => (readHex k, (v.splitOn ".").map readHex)
    | _ => (readHex item, [])
  ⟨items.map (·.1), items.map (·.2)⟩

/-- Binary search for a key over the half-open slice `[lo, hi)`. -/
def search (t : MapTable) (c lo hi : Nat) : Option (List Nat) :=
  if _h : lo < hi then
    let mid := (lo + hi) / 2
    match t.keys[mid]? with
    | some k =>
      if c < k then t.search c lo mid
      else if k < c then t.search c (mid + 1) hi
      else t.images[mid]?
    | none => none
  else none
termination_by hi - lo

/-- The image of a code point, if it is a key. -/
def find? (t : MapTable) (c : Nat) : Option (List Nat) :=
  t.search c 0 t.keys.size

/-- Every key whose image is exactly `[c]`, by a pass over the table. -/
def preimage (t : MapTable) (c : Nat) : List Nat :=
  ((t.keys.zip t.images).filter (fun p => p.2 == [c])).toList.map (·.1)

end MapTable

end AccessLog.Text

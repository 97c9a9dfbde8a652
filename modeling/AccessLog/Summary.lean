import AccessLog.Tally
import AccessLog.Json
import AccessLog.Text.Split

/-!
# Reports of a tally

A tally is reported in two ways.

**As a document**: an object of the counters, the source, the archive entries, the audit entries
(`entry` first, and only when there is one), the elapsed seconds and the cancellation flag, in
that order. It is written compactly, or indented by a given width; a width of zero still breaks
lines but indents nothing.

**As text**: an optional section of unmatched lines, then the counters, each as a bordered table.

* The unmatched section shows the first `top` audit entries (counted from the end when `top` is
  negative, as a slice does), with an `Entry` column when one of them names an entry, a
  `LineNumber` column, and a `Line` column in which tabs are written `\t` and the line is cut
  into rows of 94 characters. A note follows when entries were left out.
* The counters follow, then the source, the entries, the elapsed seconds with three decimals,
  and the cancellation.

In a table every column is as wide as its widest cell line, cells are padded with blanks, and a
cell of several lines spreads over several rows.

## Main statements

* `sliceTo_of_nonneg`: a non-negative `top` shows the first `top` entries.
-/

namespace AccessLog

open AccessLog.Number AccessLog.Text

/-- Pads a text with blanks on the right to `width` characters. -/
def padRight (width : Nat) (s : String) : String :=
  s ++ String.ofList (List.replicate (width - s.length) ' ')

/-- Cuts a list into consecutive chunks of `width` elements (`width > 0`). -/
def chunks (width : Nat) (xs : List Char) : List (List Char) :=
  if _h : width = 0 then [xs]
  else if xs.length ≤ width then [xs]
  else xs.take width :: chunks width (xs.drop width)
  termination_by xs.length
  decreasing_by simp only [List.length_drop]; omega

/-- A text with a line break after every `width` characters; the empty text stays empty. -/
def fold (text : String) (width : Nat) : String :=
  if text.isEmpty then text
  else "\n".intercalate ((chunks width text.toList).map String.ofList)

/-- The widths of the columns: the widest of the header and of every line of a cell. -/
def columnWidths (header : List String) (rows : List (List (List String))) : List Nat :=
  header.zipIdx.map fun (h, i) =>
    rows.foldl (fun w row =>
      match row[i]? with
      | some cell => cell.foldl (fun w part => max w part.length) w
      | none => w) h.length

/-- The border line of a table. -/
def border (widths : List Nat) : String :=
  "+" ++ "+".intercalate (widths.map fun w => String.ofList (List.replicate (w + 2) '-')) ++ "+"

/-- One row of a table. -/
def tableRow (widths : List Nat) (cells : List String) : String :=
  "| " ++ " | ".intercalate ((cells.zip widths).map fun (c, w) => padRight w c) ++ " |"

/-- The rows of one multi-line row group. -/
def rowGroup (widths : List Nat) (cells : List (List String)) : List String :=
  let height := cells.foldl (fun h c => max h c.length) 0
  (List.range height).map fun n => tableRow widths (cells.map fun cell => cell[n]?.getD "")

/-- A bordered table of a header and rows of cells, each cell possibly of several lines. -/
def table (header : List String) (rows : List (List String)) : List String :=
  let split := rows.map fun row => row.map (pieces "\n")
  let widths := columnWidths header split
  let b := border widths
  [b, tableRow widths header, b] ++ split.flatMap fun cells => rowGroup widths cells ++ [b]

/-- A slice of the first `top` items, counted from the end when `top` is negative. -/
def sliceTo {α : Type} (xs : List α) (top : Int) : List α :=
  if 0 ≤ top then xs.take top.toNat else xs.take (xs.length - (-top).toNat)

theorem sliceTo_of_nonneg {α : Type} (xs : List α) (top : Int) (h : 0 ≤ top) :
    sliceTo xs top = xs.take top.toNat := by
  simp [sliceTo, h]

/-- The text of a number of seconds with three decimals. A whole number is first made a float,
which fails past the largest float; a truth value counts as the whole number one or zero; a text
has no fixed-point form, and the other values no number format at all. -/
def Seconds.fixed : Seconds → Except Error String
  | .whole n =>
    match floatOfInt? n with
    | some x => .ok (fixedText 3 x)
    | none => .error (.value (.overflow "int too large to convert to float"))
  | .real x => .ok (fixedText 3 x)
  | .other (.bool b) => .ok (if b then "1.000" else "0.000")
  | .other (.int n) =>
    match floatOfInt? n with
    | some x => .ok (fixedText 3 x)
    | none => .error (.value (.overflow "int too large to convert to float"))
  | .other (.float x) => .ok (fixedText 3 x)
  | .other (.str _) => .error (.value (.badContent "Unknown format code 'f' for object of type 'str'"))
  | .other .null => .error (.value (.wrongType "unsupported format string passed to NoneType.__format__"))
  | .other (.arr _) => .error (.value (.wrongType "unsupported format string passed to list.__format__"))
  | .other (.obj _) => .error (.value (.wrongType "unsupported format string passed to dict.__format__"))

/-- The document value of a number of seconds. -/
def Seconds.toJson : Seconds → Json
  | .whole n => .int n
  | .real x => .float x
  | .other v => v

/-- Tabs written as `\t`. -/
def showTabs (s : String) : String := String.ofList (s.toList.flatMap fun c =>
  if c == '\t' then ['\\', 't'] else [c])

/-- The unmatched-lines section of a report. -/
def unmatchedSection (t : Tally) (top : Int) : List String :=
  if t.audits.isEmpty then []
  else
    let shown := sliceTo t.audits top
    let withEntry := shown.any fun a => !(a.entry.getD "").isEmpty
    let header := (if withEntry then ["Entry"] else []) ++ ["LineNumber", "Line"]
    let rows := shown.map fun a =>
      (if withEntry then [a.entry.getD ""] else []) ++
        [intText a.lineNumber, fold (showTabs a.line) 94]
    let note :=
      if (t.audits.length : Int) > top then
        ["// Show only the first " ++ intText top ++ " of " ++ toString t.audits.length ++
          " errors"]
      else []
    ["/* UNMATCHED LINES */", ""] ++ table header rows ++ note ++ [""]

/-- The text report of a tally, showing at most `top` unmatched lines; it fails only when the
elapsed time cannot be written. -/
def Tally.report (t : Tally) (top : Int) : Except Error String := do
  let elapsed ← t.elapsed.fixed
  let counters := [("Total", t.total), ("Matched", t.matched), ("Unmatched", t.unmatched),
    ("Excluded", t.excluded), ("Skipped", t.skipped)]
  let lines := unmatchedSection t top ++ ["/* SUMMARY */", ""] ++
    table (counters.map (·.1)) [counters.map fun (_, v) => intText v] ++
    (if t.source.isEmpty then [] else ["Source    : " ++ t.source]) ++
    (if t.entries.isEmpty then [] else ["Entries   : " ++ ", ".intercalate t.entries]) ++
    ["Elapsed   : " ++ elapsed ++ "s"] ++
    (if t.cancelled then ["Cancelled : processing stopped before end of input"] else [])
  return "\n".intercalate lines

/-- The number of unmatched lines a report shows by default. -/
def reportTop : Int := 10

/-- The document of an audit entry: the entry first, when there is one. -/
def Audit.toJson (a : Audit) : Json :=
  .obj ((match a.entry with | some e => [("entry", Json.str e)] | none => []) ++
    [("line_number", .int a.lineNumber), ("line", .str a.line)])

/-- The document of a tally, without the elapsed time. -/
def Tally.countsJson (t : Tally) : List (String × Json) :=
  [("total", .int t.total), ("matched", .int t.matched), ("unmatched", .int t.unmatched),
    ("excluded", .int t.excluded), ("skipped", .int t.skipped), ("source", .str t.source),
    ("archive_entries", .arr (t.entries.map .str)), ("errors", .arr (t.audits.map Audit.toJson))]

/-- The document of a tally. -/
def Tally.toJson (t : Tally) : Json :=
  .obj (t.countsJson ++ [("elapsed_seconds", t.elapsed.toJson), ("cancelled", .bool t.cancelled)])

/-- The layout of a tally's document: compact without an indent width; otherwise one member per
line, indented by the width (nothing for a width of zero or less), the key separator keeping its
blank except for a width of zero. -/
def tallyLayout : Option Int → JsonLayout
  | none => JsonLayout.compact
  | some 0 => { indent := some "", itemSep := ",", keySep := ":" }
  | some n => JsonLayout.indented n

/-- The document text of a tally. -/
def Tally.writeJson (t : Tally) (indent : Option Int) : String :=
  t.toJson.write (tallyLayout indent)

end AccessLog

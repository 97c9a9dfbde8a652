import Mathlib
import AccessLog.Summary
import AccessLog.Proofs.Marking

/-!
# The layout of a text report

A text report shows a tally's unmatched lines and its counters as bordered tables. This module
says what such a table looks like and what the report shows in it.

A cell of a table may hold line feeds; it is cut into *parts* there, and a row of the table takes
as many physical lines as its tallest cell has parts, the `n`-th line showing the `n`-th part of
every cell. Each column is as wide as its longest header or part (`columnWidths_isGreatest`), so
that every line of the table, borders and header included, has the same length: one more than
the sum of the column widths, each with three more (`table_layout`).

The unmatched-lines section is there exactly when the tally has audit entries. Its table shows
the first `top` of them in order, with an `Entry` column when one of those names an archive
entry, the line number, and the line with its tabs written `\t`, cut into consecutive chunks of
94 characters (`chunks_chunking`) that are cut again at their line feeds (`pieces_fold`).

## Main statements

* `chunks_chunking`: `chunks` cuts a text into consecutive chunks of the given width.
* `pieces_fold`: the parts of a folded text are the parts of its chunks.
* `table_layout`: the lines of a table, and their common length.
* `report_layout`: what a report shows of a tally.
-/

namespace AccessLog

open Number Text

/-! ## Long lines cut into chunks -/

/-- A cut of a text into consecutive chunks of `w` characters: the chunks spell the text, each
but the last has exactly `w` characters, and the last has at most `w` and is empty only when the
text is. -/
structure Chunking (w : Nat) (text : List Char) (cs : List (List Char)) : Prop where
  ne_nil : cs ≠ []
  flatten_eq : cs.flatten = text
  full : ∀ c ∈ cs.dropLast, c.length = w
  last : ∀ c ∈ cs.getLast?, c.length ≤ w ∧ (c = [] → text = [])

/-- **`chunks` cuts a text into consecutive chunks** of a positive width. -/
theorem chunks_chunking {w : Nat} (hw : 0 < w) (text : List Char) :
    Chunking w text (chunks w text) := by
  fun_induction chunks w text with
  | case1 xs h => omega
  | case2 xs _ hle =>
    refine ⟨List.cons_ne_nil _ _, by simp, by simp, ?_⟩
    simp only [List.getLast?_singleton, Option.mem_def, Option.some.injEq]
    rintro c rfl
    exact ⟨hle, id⟩
  | case3 xs _ hlt ih =>
    have hrest : chunks w (xs.drop w) ≠ [] := ih.ne_nil
    refine ⟨List.cons_ne_nil _ _, by rw [List.flatten_cons, ih.flatten_eq, List.take_append_drop],
      ?_, ?_⟩
    · obtain ⟨c₀, cs, hcs⟩ := List.exists_cons_of_ne_nil hrest
      rw [hcs, List.dropLast_cons_cons]
      intro c hc
      rcases List.mem_cons.mp hc with rfl | hc
      · simp only [List.length_take]
        omega
      · exact ih.full c (by rw [hcs]; exact hc)
    · rw [List.getLast?_cons_of_ne_nil hrest]
      intro c hc
      obtain ⟨hcw, hce⟩ := ih.last c hc
      refine ⟨hcw, fun he => ?_⟩
      have := hce he
      simp only [List.drop_eq_nil_iff] at this
      omega

/-- A fold writes the chunks of its text with a line feed between two of them. -/
theorem fold_eq_intercalate (text : String) (w : Nat) :
    fold text w = "\n".intercalate ((chunks w text.toList).map String.ofList) := by
  unfold fold
  split
  · rename_i he
    have hn : text = "" := by simpa using he
    subst hn
    rw [chunks]
    simp
  · rfl

/-- Cutting at a separator what was joined by it cuts each joined piece. -/
theorem splitOn_intercalate_singleton {α : Type} [BEq α] [LawfulBEq α] (x : α) :
    ∀ ls : List (List α), ls ≠ [] → ([x].intercalate ls).splitOn x = ls.flatMap (·.splitOn x)
  | [], h => absurd rfl h
  | [l], _ => by simp
  | l :: l' :: zs, _ => by
    rw [List.intercalate_cons_cons, List.append_assoc, List.splitOn, List.singleton_append,
      List.splitOnP_append_cons _ _ (by simp), ← List.splitOn, ← List.splitOn,
      splitOn_intercalate_singleton x (l' :: zs) (List.cons_ne_nil _ _)]
    simp only [List.flatMap_cons]

/-- **The parts of a folded text** are the parts of its chunks, each cut at its line feeds. -/
theorem pieces_fold (text : String) (w : Nat) :
    pieces "\n" (fold text w) =
      (chunks w text.toList).flatMap fun c => (c.splitOn '\n').map String.ofList := by
  have hne : chunks w text.toList ≠ [] := by
    rw [chunks]
    split
    · exact List.cons_ne_nil _ _
    · split <;> exact List.cons_ne_nil _ _
  rw [fold_eq_intercalate, pieces_newline, String.toList_intercalate, List.map_map]
  simp only [Function.comp_def, String.toList_ofList, List.map_id']
  rw [show "\n".toList = ['\n'] from rfl, splitOn_intercalate_singleton _ _ hne, List.map_flatMap]

/-! ## Column widths -/

/-- A running maximum from `w₀` is the greatest of `w₀` and the values met. -/
theorem foldl_max_isGreatest {α : Type} (g : α → Nat) (l : List α) (w₀ : Nat) :
    IsGreatest {n | n ∈ w₀ :: l.map g} (l.foldl (fun w x => max w (g x)) w₀) := by
  induction l generalizing w₀ with
  | nil => exact ⟨List.mem_singleton_self _, fun n hn => by simp_all⟩
  | cons x l ih =>
    obtain ⟨hmem, hub⟩ := ih (max w₀ (g x))
    refine ⟨?_, fun n hn => ?_⟩
    · rcases List.mem_cons.mp hmem with h | h
      · rw [List.foldl_cons, h]
        by_cases hle : w₀ ≤ g x
        · rw [max_eq_right hle]
          exact List.mem_cons_of_mem _ List.mem_cons_self
        · rw [max_eq_left (by omega)]
          exact List.mem_cons_self
      · exact List.mem_cons_of_mem _ (List.mem_cons_of_mem _ h)
    · have hn : n ∈ w₀ :: g x :: l.map g := hn
      rw [List.foldl_cons]
      rcases List.mem_cons.mp hn with rfl | hn
      · exact le_trans (le_max_left _ _) (hub List.mem_cons_self)
      · rcases List.mem_cons.mp hn with rfl | hn
        · exact le_trans (le_max_right _ _) (hub List.mem_cons_self)
        · exact hub (List.mem_cons_of_mem _ hn)

/-- The lengths met in column `c` of a table whose cells are cut into parts: the header's, then
those of every part of the column's cells. -/
def columnLengths (header : List String) (rows : List (List (List String))) (c : Nat) :
    List Nat :=
  (header[c]?.getD "").length :: (rows.flatMap fun cells => cells[c]?.getD []).map String.length

theorem length_columnWidths (header : List String) (rows : List (List (List String))) :
    (columnWidths header rows).length = header.length := by
  simp [columnWidths]

/-- **Each column is as wide as its longest header or part.** -/
theorem columnWidths_isGreatest {header : List String} {rows : List (List (List String))}
    {c w : Nat} (h : (columnWidths header rows)[c]? = some w) :
    IsGreatest {n | n ∈ columnLengths header rows c} w := by
  unfold columnWidths at h
  rw [List.getElem?_map, List.getElem?_zipIdx] at h
  cases hc : header[c]? with
  | none => simp [hc] at h
  | some hd =>
    simp only [hc, Option.map_some, Option.some.injEq] at h
    subst h
    simp only [Nat.zero_add]
    suffices key : ∀ f : Nat → List (List String) → Nat,
        (∀ w cells, f w cells = (cells[c]?.getD []).foldl (fun w part => max w part.length) w) →
        IsGreatest {n | n ∈ columnLengths header rows c} (rows.foldl f hd.length) by
      apply key
      intro w cells
      cases cells[c]? <;> rfl
    intro f hf
    rw [List.foldl_ext f _ hd.length fun w cells _ => hf w cells, ← List.foldl_flatMap]
    simpa [columnLengths, hc] using
      foldl_max_isGreatest String.length (rows.flatMap fun cells => cells[c]?.getD []) hd.length

/-! ## Lengths of the lines of a table -/

/-- Joining lists with a separator puts the separator once between two neighbours. -/
theorem length_intercalate_list {α : Type} (sep : List α) :
    ∀ ls : List (List α),
      (sep.intercalate ls).length = (ls.map List.length).sum + sep.length * (ls.length - 1)
  | [] => by simp
  | [l] => by simp
  | l :: l' :: zs => by
    rw [List.intercalate_cons_cons, List.length_append, List.length_append,
      length_intercalate_list sep (l' :: zs)]
    simp only [List.map_cons, List.sum_cons, List.length_cons, Nat.add_sub_cancel, Nat.mul_succ]
    omega

theorem length_intercalate (sep : String) (xs : List String) :
    (sep.intercalate xs).length = (xs.map String.length).sum + sep.length * (xs.length - 1) := by
  rw [← String.length_toList, String.toList_intercalate, length_intercalate_list, List.map_map,
    List.length_map, String.length_toList]
  simp [Function.comp_def, String.length_toList]

theorem padRight_length {w : Nat} {s : String} (h : s.length ≤ w) : (padRight w s).length = w := by
  simp only [padRight, String.length_append, String.length_ofList, List.length_replicate]
  omega

theorem sum_map_add_const (k : Nat) (ws : List Nat) :
    (ws.map (· + k)).sum = ws.sum + k * ws.length := by
  induction ws with
  | nil => rfl
  | cons w ws ih =>
    simp only [List.map_cons, List.sum_cons, List.length_cons, ih, Nat.mul_succ]
    omega

/-- Cells that fit the column widths are padded to exactly those widths. -/
theorem length_padded {ws : List Nat} {cells : List String}
    (h : List.Forall₂ (fun c w => c.length ≤ w) cells ws) :
    ((cells.zip ws).map fun (c, w) => padRight w c).map String.length = ws := by
  induction h with
  | nil => rfl
  | cons hcw _ ih => rw [List.zip_cons_cons, List.map_cons, List.map_cons, ih, padRight_length hcw]

/-- A row whose cells fit the column widths is one more than the widths, each with three more,
long. -/
theorem tableRow_length {ws : List Nat} {cells : List String}
    (h : List.Forall₂ (fun c w => c.length ≤ w) cells ws) (hne : ws ≠ []) :
    (tableRow ws cells).length = (ws.map (· + 3)).sum + 1 := by
  have hpad := length_padded h
  have hlen : ((cells.zip ws).map fun (c, w) => padRight w c).length = ws.length := by
    simpa using congrArg List.length hpad
  have hpos := List.length_pos_of_ne_nil hne
  unfold tableRow
  rw [String.length_append, String.length_append, length_intercalate, hpad, hlen,
    sum_map_add_const]
  have h2 : ("| " : String).length = 2 := rfl
  have h3 : (" | " : String).length = 3 := rfl
  have h2' : (" |" : String).length = 2 := rfl
  rw [h2, h3, h2']
  omega

/-- A border is as long as every row of the table. -/
theorem border_length {ws : List Nat} (hne : ws ≠ []) :
    (border ws).length = (ws.map (· + 3)).sum + 1 := by
  have hdash : (ws.map fun w => String.ofList (List.replicate (w + 2) '-')).map String.length =
      ws.map (· + 2) := by
    simp [Function.comp_def]
  have hpos := List.length_pos_of_ne_nil hne
  unfold border
  rw [String.length_append, String.length_append, length_intercalate, hdash, sum_map_add_const,
    List.length_map, sum_map_add_const]
  have h1 : ("+" : String).length = 1 := rfl
  rw [h1]
  omega

/-! ## The lines of a table -/

/-- The rows of a table with each cell cut into its parts at line feeds. -/
def splitRows (rows : List (List String)) : List (List (List String)) :=
  rows.map fun row => row.map (pieces "\n")

/-- The widths of the columns of a table. -/
def tableWidths (header : List String) (rows : List (List String)) : List Nat :=
  columnWidths header (splitRows rows)

/-- A row takes as many lines as its tallest cell has parts. -/
theorem rowGroup_height (ws : List Nat) {cells : List (List String)} (hne : cells ≠ []) :
    IsGreatest {n | ∃ cell ∈ cells, n = cell.length} (rowGroup ws cells).length := by
  have hg := foldl_max_isGreatest List.length cells 0
  have hlen : (rowGroup ws cells).length = cells.foldl (fun h c => max h c.length) 0 := by
    simp [rowGroup]
  rw [hlen]
  refine ⟨?_, fun n ⟨cell, hc, hn⟩ => hn ▸ hg.2 (List.mem_cons_of_mem _ (List.mem_map_of_mem hc))⟩
  rcases List.mem_cons.mp hg.1 with h | h
  · obtain ⟨cell, hc⟩ := List.exists_mem_of_ne_nil cells hne
    have hle := hg.2 (List.mem_cons_of_mem _ (List.mem_map_of_mem (f := List.length) hc))
    exact ⟨cell, hc, by rw [h] at hle ⊢; omega⟩
  · obtain ⟨cell, hc, hn⟩ := List.mem_map.mp h
    exact ⟨cell, hc, hn.symm⟩

/-- The `n`-th line of a row shows the `n`-th part of each cell, blank past a cell's last. -/
theorem eq_of_getElem?_rowGroup {ws : List Nat} {cells : List (List String)} {n : Nat}
    {line : String} (h : (rowGroup ws cells)[n]? = some line) :
    line = tableRow ws (cells.map fun cell => cell[n]?.getD "") := by
  simp only [rowGroup, List.getElem?_map, Option.map_eq_some_iff] at h
  obtain ⟨m, hm, rfl⟩ := h
  obtain ⟨_, hm⟩ := List.getElem?_eq_some_iff.mp hm
  rw [List.getElem_range] at hm
  rw [hm]

/-- Texts fit widths when, place by place, each is no longer than the width there. -/
theorem forall₂_fits {xs : List String} {ws : List Nat} (hl : xs.length = ws.length)
    (h : ∀ (i : Nat) (x : String) (w : Nat), xs[i]? = some x → ws[i]? = some w → x.length ≤ w) :
    List.Forall₂ (fun c w => c.length ≤ w) xs ws := by
  induction xs generalizing ws with
  | nil =>
    rw [List.eq_nil_of_length_eq_zero hl.symm]
    exact .nil
  | cons x xs ih =>
    obtain ⟨w, ws, rfl⟩ := List.exists_cons_of_length_eq_add_one hl.symm
    exact .cons (h 0 x w rfl rfl) (ih (by simpa using hl) fun i x' w' hx hw => h (i + 1) x' w' hx hw)

section Fits

variable {header : List String} {rows : List (List String)}

/-- The header fits the column widths. -/
theorem header_fits : List.Forall₂ (fun c w => c.length ≤ w) header (tableWidths header rows) := by
  refine forall₂_fits (length_columnWidths _ _).symm fun i x w hx hw => ?_
  exact (columnWidths_isGreatest hw).2 (by simp [columnLengths, hx])

/-- Each line of a row fits the column widths, when the row has a cell for each column. -/
theorem row_fits {cells : List (List String)} (hc : cells ∈ splitRows rows)
    (hr : ∀ row ∈ rows, row.length = header.length) (n : Nat) :
    List.Forall₂ (fun c w => c.length ≤ w) (cells.map fun cell => cell[n]?.getD "")
      (tableWidths header rows) := by
  obtain ⟨row, hrow, rfl⟩ := List.mem_map.mp hc
  refine forall₂_fits (by simp [tableWidths, length_columnWidths, hr row hrow]) fun i x w hx hw => ?_
  rw [List.getElem?_map] at hx
  obtain ⟨cell, hcell, rfl⟩ := Option.map_eq_some_iff.mp hx
  cases hp : cell[n]? with
  | none => simp
  | some part =>
    rw [Option.getD_some]
    refine (columnWidths_isGreatest hw).2 (List.mem_cons_of_mem _ (List.mem_map_of_mem ?_))
    refine List.mem_flatMap.mpr ⟨row.map (pieces "\n"), hc, ?_⟩
    rw [hcell, Option.getD_some]
    exact List.mem_of_getElem? hp

end Fits

/-- What a bordered table of a header and rows of cells shows, the cells cut into parts at line
feeds. -/
structure TableLayout (header : List String) (rows : List (List String)) (lines : List String) :
    Prop where
  /-- There is a width for each column. -/
  widths_length : (tableWidths header rows).length = header.length
  /-- Each column is as wide as its longest header or part. -/
  width : ∀ c w, (tableWidths header rows)[c]? = some w →
    IsGreatest {n | n ∈ columnLengths header (splitRows rows) c} w
  /-- A border, the header and a border, then for each row in order its lines and a border. -/
  lines_eq : lines = [border (tableWidths header rows), tableRow (tableWidths header rows) header,
    border (tableWidths header rows)] ++ (splitRows rows).flatMap fun cells =>
      rowGroup (tableWidths header rows) cells ++ [border (tableWidths header rows)]
  /-- A row takes one line per part of its tallest cell. -/
  height : ∀ cells ∈ splitRows rows,
    IsGreatest {n | ∃ cell ∈ cells, n = cell.length} (rowGroup (tableWidths header rows) cells).length
  /-- The `n`-th line of a row shows the `n`-th part of each cell, blank past a cell's last. -/
  row_line : ∀ cells ∈ splitRows rows, ∀ (n : Nat) (line : String),
    (rowGroup (tableWidths header rows) cells)[n]? = some line →
      line = tableRow (tableWidths header rows) (cells.map fun cell => cell[n]?.getD "")
  /-- All lines have one length: one more than the widths, each with three more. -/
  line_length : ∀ line ∈ lines, line.length = ((tableWidths header rows).map (· + 3)).sum + 1

/-- **The lines of a table**, for a header and rows with a cell for each column. -/
theorem table_layout {header : List String} {rows : List (List String)} (hh : header ≠ [])
    (hr : ∀ row ∈ rows, row.length = header.length) :
    TableLayout header rows (table header rows) := by
  have hws : tableWidths header rows ≠ [] := by
    rw [← List.length_pos_iff, tableWidths, length_columnWidths]
    exact List.length_pos_of_ne_nil hh
  have hcells : ∀ cells ∈ splitRows rows, cells ≠ [] := by
    intro cells hc
    obtain ⟨row, hrow, rfl⟩ := List.mem_map.mp hc
    rw [← List.length_pos_iff, List.length_map, hr row hrow]
    exact List.length_pos_of_ne_nil hh
  refine ⟨length_columnWidths _ _, fun c w hw => columnWidths_isGreatest hw, rfl,
    fun cells hc => rowGroup_height _ (hcells cells hc), fun _ _ _ _ h => eq_of_getElem?_rowGroup h,
    fun line hl => ?_⟩
  simp only [table, List.mem_append, List.mem_cons, List.mem_flatMap, List.not_mem_nil,
    or_false] at hl
  rcases hl with (rfl | rfl | rfl) | ⟨cells, hc, hl | rfl⟩
  · exact border_length hws
  · exact tableRow_length header_fits hws
  · exact border_length hws
  · obtain ⟨n, hn⟩ := List.mem_iff_getElem?.mp hl
    rw [eq_of_getElem?_rowGroup hn]
    exact tableRow_length (row_fits hc hr n) hws
  · exact border_length hws

/-! ## The report -/

/-- The header of the table of unmatched lines: an `Entry` column when one of the shown audit
entries names an archive entry. -/
def auditHeader (shown : List Audit) : List String :=
  (if ∃ a ∈ shown, a.entry.getD "" ≠ "" then ["Entry"] else []) ++ ["LineNumber", "Line"]

/-- The cells of a shown audit entry: its archive entry when the table has that column, its line
number, and its line with tabs written `\t`, folded at 94 characters. -/
def auditCells (shown : List Audit) (a : Audit) : List String :=
  (if ∃ a ∈ shown, a.entry.getD "" ≠ "" then [a.entry.getD ""] else []) ++
    [intText a.lineNumber, fold (showTabs a.line) 94]

/-- The names of the counters a report shows. -/
def counterNames : List String := ["Total", "Matched", "Unmatched", "Excluded", "Skipped"]

/-- The values of the counters a report shows. -/
def counterTexts (t : Tally) : List String :=
  [intText t.total, intText t.matched, intText t.unmatched, intText t.excluded, intText t.skipped]

theorem length_auditCells (shown : List Audit) (a : Audit) :
    (auditCells shown a).length = (auditHeader shown).length := by
  unfold auditCells auditHeader
  split <;> rfl

/-- The table of unmatched lines has a cell under each of its columns. -/
theorem audit_table_layout (shown : List Audit) :
    TableLayout (auditHeader shown) (shown.map (auditCells shown))
      (table (auditHeader shown) (shown.map (auditCells shown))) := by
  refine table_layout (by unfold auditHeader; simp) fun row hrow => ?_
  obtain ⟨a, -, rfl⟩ := List.mem_map.mp hrow
  exact length_auditCells shown a

theorem any_entry_iff (shown : List Audit) :
    (shown.any fun a => !(a.entry.getD "").isEmpty) = true ↔ ∃ a ∈ shown, a.entry.getD "" ≠ "" := by
  simp [List.any_eq_true]

theorem unmatchedSection_eq_nil_iff (t : Tally) (top : Int) :
    unmatchedSection t top = [] ↔ t.audits = [] := by
  unfold unmatchedSection
  split
  · rename_i h
    simpa using h
  · rename_i h
    simpa using h

/-- The unmatched section of a tally with audit entries: a title, the table of the first `top`
entries, and a note when some were left out. -/
theorem unmatchedSection_eq {t : Tally} {top : Int} (htop : 0 ≤ top) (ha : t.audits ≠ []) :
    unmatchedSection t top = ["/* UNMATCHED LINES */", ""] ++
      table (auditHeader (t.audits.take top.toNat))
        ((t.audits.take top.toNat).map (auditCells (t.audits.take top.toNat))) ++
      (if (t.audits.length : Int) > top then
        ["// Show only the first " ++ intText top ++ " of " ++ toString t.audits.length ++
          " errors"]
      else []) ++ [""] := by
  have hne : t.audits.isEmpty = false := by simpa using ha
  unfold unmatchedSection auditHeader auditCells
  rw [if_neg (by simp [hne]), sliceTo_of_nonneg _ _ htop]
  by_cases h : ∃ a ∈ t.audits.take top.toNat, a.entry.getD "" ≠ ""
  · simp only [(any_entry_iff _).mpr h, if_pos h, if_true]
  · have hf : ((t.audits.take top.toNat).any fun a => !(a.entry.getD "").isEmpty) = false := by
      simpa using mt (any_entry_iff _).mp h
    simp only [hf, if_neg h, Bool.false_eq_true, if_false]

/-- A report that gets its elapsed time written starts with the unmatched section, then the
title and table of the counters. -/
theorem report_eq {t : Tally} {e : String} (top : Int) (he : t.elapsed.fixed = .ok e) :
    ∃ rest, t.report top = .ok ("\n".intercalate (unmatchedSection t top ++
      ["/* SUMMARY */", ""] ++ table counterNames [counterTexts t] ++ rest)) := by
  simp only [Tally.report, he, List.append_assoc]
  exact ⟨_, rfl⟩

/-- A report fails only when its elapsed time cannot be written. -/
theorem elapsed_error_of_report {t : Tally} {top : Int} {err : Error}
    (h : t.report top = .error err) : t.elapsed.fixed = .error err := by
  cases he : t.elapsed.fixed with
  | error err' => simpa [Tally.report, he] using h
  | ok e => simp [Tally.report, he] at h


/-- What the text report of a tally shows. -/
structure ReportLayout (t : Tally) (top : Int) : Prop where
  /-- The unmatched section is there exactly when the tally has audit entries. -/
  section_eq_nil : unmatchedSection t top = [] ↔ t.audits = []
  /-- It is a title, the table of the first `top` entries in order, and a note when entries were
  left out. -/
  section_eq : t.audits ≠ [] → unmatchedSection t top = ["/* UNMATCHED LINES */", ""] ++
    table (auditHeader (t.audits.take top.toNat))
      ((t.audits.take top.toNat).map (auditCells (t.audits.take top.toNat))) ++
    (if (t.audits.length : Int) > top then
      ["// Show only the first " ++ intText top ++ " of " ++ toString t.audits.length ++ " errors"]
    else []) ++ [""]
  /-- The lines of that table. -/
  audit_table : TableLayout (auditHeader (t.audits.take top.toNat))
    ((t.audits.take top.toNat).map (auditCells (t.audits.take top.toNat)))
    (table (auditHeader (t.audits.take top.toNat))
      ((t.audits.take top.toNat).map (auditCells (t.audits.take top.toNat))))
  /-- The parts of a shown line are its consecutive chunks of 94 characters, each cut at its line
  feeds. -/
  line_parts : ∀ a ∈ t.audits.take top.toNat, ∃ cs, Chunking 94 (showTabs a.line).toList cs ∧
    pieces "\n" (fold (showTabs a.line) 94) = cs.flatMap fun c => (c.splitOn '\n').map String.ofList
  /-- A report whose elapsed time can be written follows the unmatched section with the
  counters' title and table. -/
  report_eq : ∀ e, t.elapsed.fixed = .ok e → ∃ rest, t.report top = .ok ("\n".intercalate
    (unmatchedSection t top ++ ["/* SUMMARY */", ""] ++ table counterNames [counterTexts t] ++ rest))
  /-- A report fails only when its elapsed time cannot be written. -/
  report_error : ∀ err, t.report top = .error err → t.elapsed.fixed = .error err
  /-- The lines of the counters' table. -/
  counter_table : TableLayout counterNames [counterTexts t] (table counterNames [counterTexts t])

/-- **What a report shows of a tally**, for a `top` of at least zero. -/
theorem report_layout (t : Tally) (top : Int) (htop : 0 ≤ top) : ReportLayout t top := by
  refine ⟨unmatchedSection_eq_nil_iff t top, unmatchedSection_eq htop, audit_table_layout _,
    fun a _ => ⟨_, chunks_chunking (by decide) _, pieces_fold _ _⟩, fun _ he => report_eq top he,
    fun _ h => elapsed_error_of_report h, table_layout (by simp [counterNames]) ?_⟩
  intro row hrow
  rw [List.mem_singleton.mp hrow]
  rfl

/-- A report of one unmatched line, at the default `top`. -/
theorem report_layout_default_top :
    0 ≤ reportTop ∧ ReportLayout { audits := [{ lineNumber := 7, line := "GET /\tindex" }] }
      reportTop :=
  ⟨by decide, report_layout _ reportTop (by decide)⟩

end AccessLog

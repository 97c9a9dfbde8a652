import AccessLog.Proofs.Utf8Decoding
import AccessLog.Proofs.Marking

/-!
# The line sources of a text agree

A text reaches the parser whole, as the items a text stream yields, as items written without their
line feeds, in a plain file, or in a gzip member. Each of these gives the pipeline the same lines,
so each parse writes the same text and ends the same way; only the source that names the tally
differs.

The pieces of a text between its line feeds carry the argument. The text is its pieces joined by
line feeds (`List.intercalate_splitOn`), no piece holds a line feed (`not_mem_of_mem_splitOn`),
and a text stream yields these pieces with their line feeds put back (`streamItems`), the last
one only when it is not empty. Stripping an item's terminator and dropping a line's carriage
return then agree piece by piece. Files reduce to texts through the decoder (`plainFeed_lines`,
`Archive.ByteFeed.lines_of_utf8`).

A file is read as gzip when its name's suffix, in any letter case, is `.gz`, or when its bytes
start with the gzip signature, which the bytes of a text never do. So a plain file named `a.GZ`
is read as gzip and fails (`parseFile_upper_gzip_suffix`).

## Main statements

* `LineFeed.ofItems_streamItems`: the items of a text stream give the lines of the text.
* `LineFeed.ofItems_eq_ofText`: items without line feeds give the lines of the text they spell,
  each followed by a line feed.
* `Parser.line_sources_agree`: every line source of a text gives the same parse.
-/

namespace AccessLog

open Archive Text

/-! ## Pieces between line feeds -/

namespace Text

/-- Pieces joined by a separator: each piece but the last followed by the separator. -/
theorem intercalate_append_singleton {α : Type} (a : α) (xs : List (List α)) (y : List α) :
    [a].intercalate (xs ++ [y]) = (xs.map (· ++ [a])).flatten ++ y := by
  induction xs with
  | nil => simp
  | cons x xs ih =>
    obtain ⟨b, l, hl⟩ := List.exists_cons_of_ne_nil (List.append_ne_nil_of_right_ne_nil xs
      (List.cons_ne_nil y []))
    rw [List.cons_append, hl, List.intercalate_cons_cons, ← hl, ih]
    simp

@[simp]
theorem stripTerminator_append_newline (x : String) : stripTerminator (x ++ "\n") = dropReturn x := by
  simp [stripTerminator]

theorem stripTerminator_of_not_mem {x : String} (h : '\n' ∉ x.toList) :
    stripTerminator x = dropReturn x := by
  have hlast : x.toList.getLast? ≠ some '\n' := fun hl ↦ h (List.mem_of_getLast? hl)
  simp [stripTerminator, hlast]

end Text

/-! ## Text streams and item lists -/

/-- The items a text stream yields: each piece before a line feed, with its line feed, then the
piece after the last line feed when it is not empty. -/
def streamItems (s : String) : List String :=
  let ps := s.toList.splitOn '\n'
  ps.dropLast.map (fun p ↦ String.ofList p ++ "\n") ++
    (ps.getLast?.filter (fun p ↦ !p.isEmpty)).toList.map String.ofList

/-- The pieces of a text cut into those before the last line feed and the one after it. -/
theorem splitOn_eq_concat (s : String) :
    ∃ init last, s.toList.splitOn '\n' = init ++ [last] := by
  rcases List.eq_nil_or_concat (s.toList.splitOn '\n') with h | ⟨init, last, h⟩
  · exact absurd h (List.splitOn_ne_nil _ _)
  · exact ⟨init, last, by simpa using h⟩

theorem streamItems_of_splitOn {s : String} {init : List (List Char)} {last : List Char}
    (h : s.toList.splitOn '\n' = init ++ [last]) :
    streamItems s = init.map (fun p ↦ String.ofList p ++ "\n") ++
      if last = [] then [] else [String.ofList last] := by
  unfold streamItems
  rw [h]
  by_cases hl : last = [] <;> simp [hl, Option.filter]

theorem splitLines_of_splitOn {s : String} {init : List (List Char)} {last : List Char}
    (h : s.toList.splitOn '\n' = init ++ [last]) :
    splitLines s = (if last = [] then init else init ++ [last]).map String.ofList := by
  unfold splitLines
  rw [h]
  by_cases hl : last = [] <;> simp [hl]

/-- A text is the items of its stream put together. -/
theorem join_streamItems (s : String) : String.join (streamItems s) = s := by
  obtain ⟨init, last, h⟩ := splitOn_eq_concat s
  rw [← String.toList_inj, String.toList_join, streamItems_of_splitOn h]
  have hs : s.toList = ['\n'].intercalate (init ++ [last]) := by
    rw [← h, List.intercalate_splitOn]
  rw [hs, intercalate_append_singleton]
  by_cases hl : last = [] <;> simp [hl, List.flatMap_def, Function.comp_def]

/-- The items of a text stream give the lines of the text. -/
theorem LineFeed.ofItems_streamItems (s : String) :
    LineFeed.ofItems (streamItems s) = LineFeed.ofText s := by
  obtain ⟨init, last, h⟩ := splitOn_eq_concat s
  have hmem : last ∈ s.toList.splitOn '\n' := by simp [h]
  have hfree : '\n' ∉ (String.ofList last).toList := by simpa using not_mem_of_mem_splitOn hmem
  simp only [LineFeed.ofItems, LineFeed.ofText, textLines, streamItems_of_splitOn h,
    splitLines_of_splitOn h, LineFeed.mk.injEq, and_true]
  by_cases hl : last = []
  · simp [hl]
  · simp [hl, stripTerminator_of_not_mem hfree]

/-- Items without line feeds give the lines of the text they spell, each followed by a line
feed. -/
theorem LineFeed.ofItems_eq_ofText {items : List String} (h : ∀ x ∈ items, '\n' ∉ x.toList) :
    LineFeed.ofItems items = LineFeed.ofText (String.join (items.map (· ++ "\n"))) := by
  have hjoin : (String.join (items.map (· ++ "\n"))).toList =
      ['\n'].intercalate (items.map String.toList ++ [[]]) := by
    rw [intercalate_append_singleton, String.toList_join]
    simp [List.flatMap_def, Function.comp_def]
  have hsplit : (String.join (items.map (· ++ "\n"))).toList.splitOn '\n' =
      items.map String.toList ++ [[]] := by
    rw [hjoin]
    refine List.splitOn_intercalate _ (fun l hl ↦ ?_) (by simp)
    rcases List.mem_append.mp hl with hl | hl
    · obtain ⟨x, hx, rfl⟩ := List.mem_map.mp hl
      exact h x hx
    · simp_all
  simp only [LineFeed.ofItems, LineFeed.ofText, textLines, splitLines_of_splitOn hsplit,
    LineFeed.mk.injEq, and_true, ↓reduceIte, List.map_map]
  exact List.map_congr_left fun x hx ↦ by simp [stripTerminator_of_not_mem (h x hx)]

/-! ## Parses of one text -/

/-- A run with its tally, when it has one, named after `source`. -/
def Run.named (r : Run) (source : String) : Run :=
  ⟨r.written, r.result.map fun t ↦ { t with source := source }⟩

namespace Parser

variable (p : Parser)

/-- The source only names the tally. -/
theorem runFeed_named (pl : Pipeline) (feed : LineFeed) (source : String) :
    runFeed pl feed source = (runFeed pl feed "").named source := by
  unfold runFeed
  generalize feedLines none feed.failure { pipeline := pl } feed.lines = res
  obtain ⟨g, r⟩ := res
  cases r <;> rfl

theorem parseFeed_named (feed : LineFeed) (source : String) :
    p.parseFeed feed source = (p.parseFeed feed "").named source := by
  unfold parseFeed
  cases p.prepare with
  | error e => rfl
  | ok pl => exact runFeed_named pl feed source

/-- A file that the path reaches is parsed as the lines of its feed, named after the file. -/
theorem parseFile_of_checkPath {t : FileTree} {path : String} {bytes : ByteArray}
    (h : t.checkPath path = .ok bytes) :
    p.parseFile t path = p.parseFeed (if hasGzipSuffix (baseName path) ||
      startsWithGzipSignature bytes then readGzip bytes else plainFeed bytes).lines
      (baseName path) := by
  unfold parseFile parseFeed
  cases p.prepare with
  | error e => rfl
  | ok pl => simp only [h]

/-- A file with the gzip signature that the path reaches is parsed as the lines of its
inflated bytes, named after the file. -/
theorem parseGzip_of_checkPath {t : FileTree} {path : String} {bytes : ByteArray}
    (h : t.checkPath path = .ok bytes) (hsig : startsWithGzipSignature bytes = true) :
    p.parseGzip t path = p.parseFeed (readGzip bytes).lines (baseName path) := by
  unfold parseGzip parseFeed
  cases p.prepare with
  | error e => rfl
  | ok pl => simp [h, hsig]

/-- A parse of a text that ends has an unnamed tally and was not cancelled. -/
theorem parseText_result_ok {s : String} {r : Tally} (h : (p.parseText s).result = .ok r) :
    r.source = "" ∧ r.cancelled = false := by
  unfold parseText parseFeed runFeed at h
  split at h
  · cases h
  · generalize hres : feedLines none (LineFeed.ofText s).failure { pipeline := _ }
      (LineFeed.ofText s).lines = res at h
    obtain ⟨g, r'⟩ := res
    cases r' with
    | error e => cases h
    | ok b =>
      obtain ⟨-, -, -, -, -, hnone⟩ := feedLines_eq_ok hres
      obtain ⟨rfl, -⟩ := hnone rfl
      cases h
      exact ⟨rfl, rfl⟩

/-- Every line source of a text gives the same parse: the text whole, the items of a text
stream, items without line feeds that spell it, a plain file holding its bytes, and a gzip file
whose member inflates to them. All write the same text and end the same way, and a parse that
ends was not cancelled; the tally is named after the file for files and unnamed otherwise. -/
theorem line_sources_agree (s : String) :
    (∀ r, (p.parseText s).result = .ok r → r.source = "" ∧ r.cancelled = false) ∧
    String.join (streamItems s) = s ∧
    p.parseFeed (.ofItems (streamItems s)) "" = p.parseText s ∧
    (∀ items : List String, (∀ x ∈ items, '\n' ∉ x.toList) →
      String.join (items.map (· ++ "\n")) = s → p.parseFeed (.ofItems items) "" = p.parseText s) ∧
    (∀ (t : FileTree) (path : String), t.checkPath path = .ok s.toUTF8 →
      hasGzipSuffix (baseName path) = false →
      p.parseFile t path = (p.parseText s).named (baseName path)) ∧
    (∀ (t : FileTree) (path : String) (gz : ByteArray), t.checkPath path = .ok gz →
      startsWithGzipSignature gz = true → (readGzip gz).failure = none →
      ((readGzip gz).pieces.map ByteArray.toList).flatten = s.toUTF8.toList →
      p.parseGzip t path = (p.parseText s).named (baseName path)) := by
  refine ⟨fun r ↦ p.parseText_result_ok, join_streamItems s, ?_, ?_, ?_, ?_⟩
  · rw [LineFeed.ofItems_streamItems]
    rfl
  · rintro items hfree rfl
    rw [LineFeed.ofItems_eq_ofText hfree]
    rfl
  · intro t path hpath hname
    simp only [p.parseFile_of_checkPath hpath, hname, startsWithGzipSignature_toUTF8,
      Bool.or_false, Bool.false_eq_true, ↓reduceIte]
    rw [plainFeed_lines, parseFeed_named]
    rfl
  · intro t path gz hpath hsig hfail hbytes
    rw [p.parseGzip_of_checkPath hpath hsig, ByteFeed.lines_of_utf8 hfail hbytes, parseFeed_named]
    rfl

/-- A gzip file written from the text `x` and a line feed is parsed as the text. -/
theorem parseGzip_writeGzip_text :
    FileTree.checkPath ⟨[(["a.gz"], .file (writeGzip "x\n".toUTF8))]⟩ "a.gz" =
        .ok (writeGzip "x\n".toUTF8) ∧
      startsWithGzipSignature (writeGzip "x\n".toUTF8) = true ∧
      (readGzip (writeGzip "x\n".toUTF8)).failure = none ∧
      ((readGzip (writeGzip "x\n".toUTF8)).pieces.map ByteArray.toList).flatten =
        "x\n".toUTF8.toList ∧
      Parser.parseGzip { scheme := .labeled } ⟨[(["a.gz"], .file (writeGzip "x\n".toUTF8))]⟩ "a.gz" =
        (Parser.parseText { scheme := .labeled } "x\n").named "a.gz" := by
  have hpath : FileTree.checkPath ⟨[(["a.gz"], .file (writeGzip "x\n".toUTF8))]⟩ "a.gz" =
      .ok (writeGzip "x\n".toUTF8) := by
    with_unfolding_all rfl
  have hsig : startsWithGzipSignature (writeGzip "x\n".toUTF8) = true := by decide
  have hfail : (readGzip (writeGzip "x\n".toUTF8)).failure = none := by decide +kernel
  have hbytes : ((readGzip (writeGzip "x\n".toUTF8)).pieces.map ByteArray.toList).flatten =
      "x\n".toUTF8.toList := by decide +kernel
  have hname : baseName "a.gz" = "a.gz" := by decide +kernel
  have hgzip := (line_sources_agree { scheme := .labeled } "x\n").2.2.2.2.2 _ _ _ hpath hsig hfail
    hbytes
  rw [hname] at hgzip
  exact ⟨hpath, hsig, hfail, hbytes, hgzip⟩

/-- A plain file named `a.GZ` holding the text `x` and a line feed: its name does not end in
`.gz`, yet its suffix, lowered, is `.gz`, so it is read as gzip and its parse fails where the
parse of the text ends. -/
theorem parseFile_upper_gzip_suffix :
    "a.GZ".endsWith ".gz" = false ∧
      Parser.parseFile { scheme := .labeled } ⟨[(["a.GZ"], .file "x\n".toUTF8)]⟩ "a.GZ" ≠
        (Parser.parseText { scheme := .labeled } "x\n").named "a.GZ" := by
  refine ⟨by decide +kernel, fun h ↦ ?_⟩
  have hfile : (Parser.parseFile { scheme := .labeled } ⟨[(["a.GZ"], .file "x\n".toUTF8)]⟩
      "a.GZ").result.toOption.isNone = true := by decide +kernel
  have htext : (Parser.parseText { scheme := .labeled } "x\n").result.toOption.isSome = true := by
    decide +kernel
  rw [h] at hfile
  cases hres : (Parser.parseText { scheme := .labeled } "x\n").result with
  | error e => simp [hres, Except.toOption] at htext
  | ok r => simp [Run.named, hres, Except.map, Except.toOption] at hfile

end Parser

end AccessLog

import AccessLog.Source
import AccessLog.Proofs.Accounting
import AccessLog.Proofs.Cancellation

/-!
# Marked output

A parse writes, for each line it reads, the line's output followed by a line feed: a record's
text for a matched line, the line itself for an unmatched one when unmatched lines are written,
and nothing otherwise. When lines are marked, every physical line of that output begins with a
mark of fourteen characters: the processed mark before each line of a record's text, the
unmatched mark before an unmatched line.

The marks are a decoration and nothing more. A parse with marks and the same parse without them
take the same steps and reach the same tally or the same error, and deleting the mark from each
line written with marks gives the text written without them. The argument is a simulation: the
two parses are related step by step (`Progress.Marks`), the relation is kept by every line
(`Pipeline.process_withMarks`), and so by the driver loop and by the loop over archive entries.

## Physical lines

The written text is read as its physical lines, the pieces between line feeds, each ended by
one. A record's text may hold several lines, and each is marked; a line read from a source holds
none, because every source is cut into lines at line feeds.

## Main statements

* `Text.intercalate_pieces_newline`: the pieces of a text between line feeds give it back.
* `Parser.runFeed_writes`: a parse of lines writes each line's output, in order.
* `Parser.parseZip_writes`: an archive parse writes the output of each line of the entries it
  read, in order, each line numbered within its entry.
* `marked_markLines`: a record's text with its lines marked.
* `Pipeline.process_withMarks`: one line, with marks and without.
* `feedLines_marks`: a driver loop, with marks and without.
* `Parser.written_output_marks`: what a parse writes, and that its marks come off again.
-/

namespace AccessLog

open Text Archive

/-! ## Lines between line feeds -/

namespace Text

theorem not_mem_of_mem_splitOn {a : Char} {xs ys : List Char} (h : ys ∈ xs.splitOn a) :
    a ∉ ys := by
  induction xs generalizing ys with
  | nil =>
    rw [List.splitOn_nil, List.mem_singleton] at h
    simp [h]
  | cons x xs ih =>
    rw [List.splitOn_cons_eq_if_modifyHead] at h
    by_cases hx : x = a
    · rw [if_pos (by simp [hx])] at h
      rcases List.mem_cons.mp h with rfl | h
      · simp
      · exact ih h
    · rw [if_neg (by simpa using hx)] at h
      obtain ⟨z, zs, hz⟩ := List.exists_cons_of_ne_nil (List.splitOn_ne_nil a xs)
      rw [hz, List.modifyHead_cons] at h
      rcases List.mem_cons.mp h with rfl | h
      · rw [List.mem_cons, not_or]
        exact ⟨Ne.symm hx, ih (hz ▸ List.mem_cons_self)⟩
      · exact ih (hz ▸ List.mem_cons_of_mem z h)

/-- Splitting at one character is `List.splitOn`, the piece read so far leading the first. -/
theorem piecesFrom_singleton (a : Char) (cs cur : List Char) :
    piecesFrom [a] cs cur = (cs.splitOn a).modifyHead (cur.reverse ++ ·) := by
  induction cs generalizing cur with
  | nil => simp [piecesFrom]
  | cons c cs ih =>
    rw [piecesFrom, List.splitOn_cons_eq_if_modifyHead]
    by_cases hc : c = a
    · subst hc
      have hsep : [c] ≠ [] ∧ [c].isPrefixOf (c :: cs) = true := by simp
      rw [dif_pos hsep, if_pos (by simp), List.length_singleton, List.drop_one, List.tail_cons,
        ih, List.modifyHead_cons, List.reverse_nil, List.append_nil]
      cases cs.splitOn c <;> simp
    · have hsep : ¬([a] ≠ [] ∧ [a].isPrefixOf (c :: cs) = true) := by simp [Ne.symm hc]
      rw [dif_neg hsep, ih, if_neg (by simpa using hc), List.modifyHead_modifyHead]
      congr 1
      funext s
      simp

theorem pieces_newline (s : String) :
    pieces "\n" s = (s.toList.splitOn '\n').map String.ofList := by
  rw [pieces, show "\n".toList = ['\n'] from rfl, piecesFrom_singleton]
  rcases List.exists_cons_of_ne_nil (List.splitOn_ne_nil '\n' s.toList) with ⟨z, zs, hz⟩
  simp [hz]

theorem newline_not_mem_of_mem_pieces {s t : String} (h : t ∈ pieces "\n" s) :
    '\n' ∉ t.toList := by
  rw [pieces_newline, List.mem_map] at h
  obtain ⟨cs, hcs, rfl⟩ := h
  rw [String.toList_ofList]
  exact not_mem_of_mem_splitOn hcs

/-- The pieces of a text between line feeds, put back together with line feeds, give the text. -/
theorem intercalate_pieces_newline (s : String) : "\n".intercalate (pieces "\n" s) = s := by
  rw [String.ext_iff, String.toList_intercalate, pieces_newline, List.map_map]
  simp [Function.comp_def, show "\n".toList = ['\n'] from rfl, List.intercalate_splitOn]

/-- Dropping a final carriage return adds no character. -/
theorem mem_of_mem_dropReturn {s : String} {c : Char} (h : c ∈ (dropReturn s).toList) :
    c ∈ s.toList := by
  unfold dropReturn at h
  split at h
  · rw [String.toList_ofList] at h
    exact List.dropLast_subset s.toList h
  · exact h

/-- No line of a text holds a line feed. -/
theorem newline_not_mem_of_mem_textLines {s l : String} (h : l ∈ textLines s) :
    '\n' ∉ l.toList := by
  rw [textLines_eq, physicalLines, List.mem_map] at h
  obtain ⟨cs, hmem, rfl⟩ := h
  intro hl
  have hcs : '\n' ∈ cs := by
    simpa using mem_of_mem_dropReturn hl
  exact not_mem_of_mem_splitOn (List.mem_of_mem_take hmem) hcs

end Text

/-! ## What a parse writes -/

/-- `pl.Writes lines w`: `w` is the text the pipeline `pl` writes for `lines`. Each line, numbered
on from the pipeline's count, is answered as the contract says, and `w` is the answers' outputs in
order, each followed by a line feed. -/
def Pipeline.Writes (pl : Pipeline) (lines : List String) (w : String) : Prop :=
  ∃ os : List Outcome,
    List.Forall₂ (fun x o ↦ ∃ first, LineContract pl x.2 pl.entry first x.1 (.ok o))
      (lines.zipIdx (pl.count + 1)) os ∧
    w = String.join (os.map Outcome.writtenText)

/-- A parse of lines that returns has written what its pipeline writes for the lines it read: all
of them, unless it was cancelled. -/
theorem Parser.runFeed_writes {pl : Pipeline} {feed : LineFeed} {source : String}
    {budget : Option Nat} {w : String} {r : Tally}
    (h : Parser.runFeed pl feed source budget = ⟨w, .ok r⟩) :
    ∃ k, pl.Writes (feed.lines.take k) w ∧ (r.cancelled = false → k = feed.lines.length) := by
  unfold Parser.runFeed at h
  generalize hf : feedLines budget feed.failure { pipeline := pl } feed.lines = res at h
  obtain ⟨g, res⟩ := res
  cases res with
  | error e => cases h
  | ok b =>
    simp only [Run.mk.injEq, Except.ok.injEq] at h
    obtain ⟨rfl, rfl⟩ := h
    obtain ⟨os, hrun, -, hwritten, hlen, -⟩ := feedLines_eq_ok hf
    exact ⟨os.length, ⟨os, hrun.forall₂_contract, by simpa using hwritten⟩, hlen⟩

/-! ## What an archive parse writes -/

/-- The lines of archive entries read one after the other: each line of an entry's text, with its
number within the entry, from one, and the entry's name. -/
def entryLines (ets : List (ZipEntry × String)) : List (String × Nat × Option String) :=
  ets.flatMap fun x ↦ ((textLines x.2).zipIdx 1).map fun y ↦ (y.1, y.2, some x.1.name)

theorem numberedLines_entryCalls (n : Nat) (e : Option String) (ets : List (ZipEntry × String)) :
    Pipeline.Call.numberedLines n e (entryCalls ets) = entryLines ets := by
  induction ets generalizing n e with
  | nil => rfl
  | cons x ets ih =>
    rw [entryCalls_cons, List.cons_append, Pipeline.Call.numberedLines,
      Pipeline.Call.numberedLines_lines, ih]
    simp [entryLines]

/-- `pl.WritesEntries ets w`: `w` is the text the pipeline `pl` writes for the lines of the
entries `ets`, read one after the other. Each line, numbered within its entry and read as of that
entry, is answered as the contract says, and `w` is the answers' outputs in order, each followed
by a line feed. -/
def Pipeline.WritesEntries (pl : Pipeline) (ets : List (ZipEntry × String)) (w : String) : Prop :=
  ∃ os : List Outcome,
    List.Forall₂ (fun x o ↦ ∃ first, LineContract pl x.2.1 x.2.2 first x.1 (.ok o))
      (entryLines ets) os ∧
    w = String.join (os.map Outcome.writtenText)

/-- Answers none of which failed are outcomes, and the text written for them is theirs. -/
theorem exists_outcomes_of_answered {xs : List (Option (Except Error Outcome))}
    (h : ∀ a ∈ xs, ∀ e, a ≠ some (.error e)) :
    ∃ os : List Outcome, xs.filterMap id = os.map .ok ∧
      String.join (xs.map answerText) = String.join (os.map Outcome.writtenText) := by
  induction xs with
  | nil => exact ⟨[], rfl, rfl⟩
  | cons a xs ih =>
    obtain ⟨os, hos, hw⟩ := ih fun a' ha' ↦ h a' (List.mem_cons_of_mem a ha')
    rcases a with _ | _ | o
    · exact ⟨os, hos, by simp [answerText, hw]⟩
    · exact absurd rfl (h _ List.mem_cons_self _)
    · exact ⟨o :: os, by simpa using hos, by simp [answerText, hw]⟩

/-- What an archive merge writes is what its prepared pipeline writes for the lines of the
entries read. -/
theorem ArchiveMerge.writesEntries {p : Parser} {pl : Pipeline} {bytes : ByteArray} {glob : Value}
    {entries : List ZipEntry} {ets : List (ZipEntry × String)} {w : String} {r : Tally}
    (h : ArchiveMerge p pl bytes glob entries ets w r) (hp : p.prepare = .ok pl) :
    pl.WritesEntries ets w := by
  obtain ⟨hcount, hentry, -, -⟩ := Parser.prepare_fresh hp
  obtain ⟨os, hos, hw⟩ := exists_outcomes_of_answered h.answered
  have hc := Pipeline.session_contract pl (entryCalls ets)
  rw [hcount, hentry, numberedLines_entryCalls, hos, List.forall₂_map_right_iff] at hc
  exact ⟨os, hc, h.written.trans hw⟩

/-- An archive parse that returns has written what its pipeline writes for the lines of the
entries it read: the first entries the glob selects, in order, each read whole as a text, and all
of them unless it was cancelled. -/
theorem Parser.parseZip_writes {p : Parser} {t : FileTree} {path : String} {glob : Value}
    {budget : Option Nat} {w : String} {r : Tally} {bytes : ByteArray} {entries : List ZipEntry}
    (h : p.parseZip t path glob budget = ⟨w, .ok r⟩) (hc : t.checkPath path = .ok bytes)
    (hd : readDirectory bytes = .ok entries) :
    ∃ pl ets k, p.prepare = .ok pl ∧
      ets.map (·.1) = (entries.filter (·.selectedBy glob)).take k ∧
      (r.cancelled = false → k = (entries.filter (·.selectedBy glob)).length) ∧
      (∀ x ∈ ets, ∃ start, openEntry bytes x.1 = .ok start ∧
        (entryFeed bytes x.1 start).lines = LineFeed.ofText x.2) ∧
      pl.WritesEntries ets w := by
  cases budget with
  | none =>
    obtain ⟨pl, bytes', entries', ets, hp, hc', hd', -, hm⟩ := Parser.parseZip_merge h
    obtain rfl : bytes' = bytes := Except.ok.inj (hc'.symm.trans hc)
    obtain rfl : entries' = entries := Except.ok.inj (hd'.symm.trans hd)
    exact ⟨pl, ets, _, hp, hm.selected.trans List.take_length.symm, fun _ ↦ rfl, hm.texts,
      hm.writesEntries hp⟩
  | some k =>
    obtain ⟨pl, ets, hp, -, hm, hcancel⟩ := Parser.parseZip_budget h hc hd
    refine ⟨pl, ets, min k (entries.filter (·.selectedBy glob)).length, hp, ?_, fun hr ↦ ?_,
      hm.texts, hm.writesEntries hp⟩
    · rw [hm.selected, List.filter_eq_self.mpr fun x hx ↦ (List.mem_filter.mp
        (List.mem_of_mem_take hx)).2]
      simp
    · rw [hr, eq_comm, decide_eq_false_iff_not, Nat.not_le] at hcancel
      omega

/-! ## Marked texts -/

/-- `Marked m u`: the text `m` is the text `u` with a mark on each of its lines. `m` is a run of
physical lines, each ended by a line feed and beginning with the processed or the unmatched mark,
and deleting the first fourteen characters of each gives `u`. -/
def Marked (m u : String) : Prop :=
  ∃ ls : List String,
    (∀ l ∈ ls, '\n' ∉ l.toList ∧
      (processedMark.toList <+: l.toList ∨ unmatchedMark.toList <+: l.toList)) ∧
    m = String.join (ls.map (· ++ "\n")) ∧
    u = String.join (ls.map fun l ↦ String.ofList (l.toList.drop 14) ++ "\n")

theorem Marked.empty : Marked "" "" := ⟨[], by simp, rfl, rfl⟩

theorem Marked.append {m u m' u' : String} (h : Marked m u) (h' : Marked m' u') :
    Marked (m ++ m') (u ++ u') := by
  obtain ⟨ls, hls, rfl, rfl⟩ := h
  obtain ⟨ls', hls', rfl, rfl⟩ := h'
  refine ⟨ls ++ ls', fun l hl ↦ ?_, by simp, by simp⟩
  rcases List.mem_append.mp hl with hl | hl
  · exact hls l hl
  · exact hls' l hl

/-- Deleting a mark's fourteen characters gives back what it was put before. -/
theorem drop_mark {mark : String} (hm : mark.toList.length = 14) (s : String) :
    String.ofList ((mark ++ s).toList.drop 14) = s := by
  rw [String.toList_append, List.drop_left' hm, String.ofList_toList]

theorem newline_not_mem_mark : '\n' ∉ processedMark.toList ∧ '\n' ∉ unmatchedMark.toList := by
  decide

/-- Lines each followed by a line feed are the lines joined by line feeds, and a last one. -/
theorem join_map_append_newline (l : String) (ls : List String) :
    String.join ((l :: ls).map (· ++ "\n")) = "\n".intercalate (l :: ls) ++ "\n" := by
  induction ls generalizing l with
  | nil => simp [String.intercalate_singleton]
  | cons l' ls ih =>
    rw [List.map_cons, String.join_cons, ih, String.intercalate_cons_cons]
    simp [String.append_assoc]

/-- An unmatched line, which holds no line feed, written with its mark. -/
theorem marked_unmatched {line : String} (h : '\n' ∉ line.toList) :
    Marked (unmatchedMark ++ line ++ "\n") (line ++ "\n") := by
  refine ⟨[unmatchedMark ++ line], ?_, by simp, ?_⟩
  · intro l hl
    rw [List.mem_singleton] at hl
    subst hl
    rw [String.toList_append, List.mem_append, not_or]
    exact ⟨⟨newline_not_mem_mark.2, h⟩, .inr (List.prefix_append _ _)⟩
  · rw [List.map_singleton, drop_mark (show unmatchedMark.toList.length = 14 from rfl)]
    simp

/-- A record's text written with every line marked. -/
theorem marked_markLines (s : String) : Marked (markLines s ++ "\n") (s ++ "\n") := by
  obtain ⟨p, ps, hps⟩ := List.exists_cons_of_ne_nil (pieces_ne_nil "\n" s)
  refine ⟨(pieces "\n" s).map (processedMark ++ ·), ?_, ?_, ?_⟩
  · intro l hl
    obtain ⟨t, ht, rfl⟩ := List.mem_map.mp hl
    rw [String.toList_append, List.mem_append, not_or]
    exact ⟨⟨newline_not_mem_mark.1, newline_not_mem_of_mem_pieces ht⟩, .inl (List.prefix_append _ _)⟩
  · rw [markLines, hps, List.map_cons, ← join_map_append_newline]
  · rw [List.map_map]
    have hdrop : ∀ t, String.ofList ((processedMark ++ t).toList.drop 14) = t :=
      drop_mark (show processedMark.toList.length = 14 from rfl)
    simp only [Function.comp_def, hdrop]
    rw [hps, join_map_append_newline, ← hps, intercalate_pieces_newline]

/-! ## Outcomes with marks -/

/-- An outcome as a parse with marks gives it: a record's text with every line marked, an
unmatched line with the unmatched mark. -/
def Outcome.marked (o : Outcome) : Outcome :=
  { o with output := o.output.map fun s ↦
      if o.status = .matched then markLines s else unmatchedMark ++ s }

/-- The text written for an outcome with marks is the text written without them, marked, as long
as only a record's text may hold a line feed. -/
theorem Outcome.marked_writtenText (o : Outcome)
    (h : ∀ s, o.output = some s → o.status = .matched ∨ '\n' ∉ s.toList) :
    Marked o.marked.writtenText o.writtenText := by
  cases ho : o.output with
  | none =>
    simp only [writtenText, marked, ho, Option.map_none, Option.getD_none]
    exact Marked.empty
  | some s =>
    by_cases hs : o.status = .matched
    · simpa [writtenText, marked, ho, hs] using marked_markLines s
    · simpa [writtenText, marked, ho, hs, String.append_assoc] using
        marked_unmatched ((h s ho).resolve_left hs)

/-- The tally counts statuses and audit entries, which marks leave alone. -/
theorem Tally.count_marked (t : Tally) (o : Outcome) : t.count o.marked = t.count o := rfl

/-! ## One line, with marks and without -/

namespace Pipeline

/-- The pipeline with lines marked or not. -/
def withMarks (p : Pipeline) (b : Bool) : Pipeline :=
  { p with options := { p.options with marked := b } }

theorem withMarks_of_marked {p : Pipeline} {b : Bool} (h : p.options.marked = b) :
    p.withMarks b = p := by
  rw [← h]
  rfl

theorem emit_withMarks (p : Pipeline) (r : Record) (n : Nat) (line : String) :
    (p.withMarks true).emit r n line =
      (((p.withMarks false).emit r n line).1.withMarks true,
        ((p.withMarks false).emit r n line).2.map Outcome.marked) := by
  have hshape : ∀ b, (p.withMarks b).shape r n = p.shape r n := fun _ ↦ rfl
  unfold emit
  rw [hshape, hshape]
  cases p.shape r n with
  | error e => rfl
  | ok r' =>
    simp only [withMarks]
    cases p.options.handler.call r'.names r'.values n p.options.lineNumber p.firstRecord with
    | text s => rfl
    | failed m => rfl
    | other k => rfl

/-- A line read with marks is the line read without them, its outcome marked. -/
theorem process_withMarks (p : Pipeline) (line : String) :
    (p.withMarks true).process line =
      (((p.withMarks false).process line).1.withMarks true,
        ((p.withMarks false).process line).2.map Outcome.marked) := by
  cases hl : listedToSkip p.options.skipLines (p.count + 1) with
  | true =>
    rw [process_of_listed (p.withMarks true) line hl,
      process_of_listed (p.withMarks false) line hl]
    rfl
  | false =>
    cases hd : p.decoder.decode line with
    | error e =>
      rw [process_of_decode_error (p.withMarks true) line hl hd,
        process_of_decode_error (p.withMarks false) line hl hd]
      rfl
    | ok found =>
      cases found with
      | none =>
        rw [process_of_refused (p.withMarks true) line hl hd,
          process_of_refused (p.withMarks false) line hl hd]
        cases he : p.options.emitUnmatched <;>
          simp [unmatchedOutput, Outcome.marked, withMarks, he, Except.map]
      | some r =>
        cases hf : Filter.allPass r (some ((p.count + 1 : Nat) : Int)) p.filters with
        | error e =>
          rw [process_of_filter_error (p.withMarks true) line hl hd hf,
            process_of_filter_error (p.withMarks false) line hl hd hf]
          rfl
        | ok pass =>
          cases pass with
          | false =>
            rw [process_of_excluded (p.withMarks true) line hl hd hf,
              process_of_excluded (p.withMarks false) line hl hd hf]
            rfl
          | true =>
            rw [process_of_passed (p.withMarks true) line hl hd hf,
              process_of_passed (p.withMarks false) line hl hd hf]
            exact emit_withMarks { p with count := p.count + 1 } r (p.count + 1) line

/-- A line without a line feed is answered with outputs without one, but for a record's text. -/
theorem LineContract.output_newline_free {p : Pipeline} {c : Nat} {entry : Option String}
    {first : Bool} {line : String} {o : Outcome} (h : LineContract p c entry first line (.ok o))
    (hl : '\n' ∉ line.toList) :
    ∀ s, o.output = some s → o.status = .matched ∨ '\n' ∉ s.toList := by
  intro s hs
  rcases h.cases with ho | ho | ho | ⟨t, ho⟩ | ⟨e, ho, -⟩ <;> cases ho
  · cases hs
  · right
    unfold unmatchedOutput at hs
    split at hs
    · cases hs
      have hmark : '\n' ∉ (if p.options.marked then unmatchedMark else "").toList := by
        split
        · exact newline_not_mem_mark.2
        · simp
      rw [String.toList_append, List.mem_append, not_or]
      exact ⟨hmark, hl⟩
    · cases hs
  · cases hs
  · exact .inl rfl

end Pipeline

/-! ## Runs with marks and without -/

/-- `gm.Marks gu`: the parse `gm` is the parse `gu` with lines marked. They have the same pipeline
but for the marks, which `gm` sets and `gu` does not, the same tally, and `gm` has written the text
of `gu` with its lines marked. -/
structure Progress.Marks (gm gu : Progress) : Prop where
  pipeline : gm.pipeline = gu.pipeline.withMarks true
  unmarked : gu.pipeline.options.marked = false
  tally : gm.tally = gu.tally
  written : Marked gm.written gu.written

/-- A parse with marks and one without, related, stay related through every line, and answer
it alike. -/
theorem feedLines_marks (budget : Option Nat) (failure : Option Archive.ReadFault)
    {gm gu : Progress} (h : gm.Marks gu) (ls : List String) (hls : ∀ l ∈ ls, '\n' ∉ l.toList) :
    (feedLines budget failure gm ls).1.Marks (feedLines budget failure gu ls).1 ∧
      (feedLines budget failure gm ls).2 = (feedLines budget failure gu ls).2 := by
  obtain ⟨hp, hu, ht, hw⟩ := h
  induction ls generalizing budget gm gu with
  | nil =>
    simp only [feedLines, hp]
    split
    · exact ⟨⟨hp, hu, ht, hw⟩, rfl⟩
    · split <;> exact ⟨⟨hp, hu, ht, hw⟩, rfl⟩
  | cons l ls ih =>
    rw [feedLines_cons, feedLines_cons]
    split
    · exact ⟨⟨hp, hu, ht, hw⟩, rfl⟩
    · have hstep := Pipeline.process_withMarks gu.pipeline l
      rw [Pipeline.withMarks_of_marked hu] at hstep
      rw [hp, hstep]
      have hu' : (gu.pipeline.process l).1.options.marked = false := by
        rw [Pipeline.options_process]
        exact hu
      cases ho : (gu.pipeline.process l).2 with
      | error e => exact ⟨⟨rfl, hu', ht, hw⟩, rfl⟩
      | ok o =>
        have hc := ho ▸ Pipeline.process_contract gu.pipeline l
        refine ih _ (fun l' hl' ↦ hls l' (List.mem_cons_of_mem l hl')) rfl hu' ?_ ?_
        · simp only [Progress.note, ht, Tally.count_marked]
        · exact hw.append (o.marked_writtenText
            (hc.output_newline_free (hls l List.mem_cons_self)))

/-- No line read from bytes holds a line feed. -/
theorem Archive.ByteFeed.newline_not_mem_of_mem_lines (f : Archive.ByteFeed) :
    ∀ l ∈ f.lines.lines, '\n' ∉ l.toList := by
  intro l hl
  have hs : ∃ s, f.lines.lines = textLines s := by
    unfold Archive.ByteFeed.lines
    split <;>
    · dsimp only
      split
      · exact ⟨_, rfl⟩
      · exact ⟨_, rfl⟩
  obtain ⟨s, hs⟩ := hs
  rw [hs] at hl
  exact newline_not_mem_of_mem_textLines hl

/-! ## Parses with marks and without -/

/-- `m.Marks u`: the run `m` is the run `u` with lines marked: the same tally or error, and the
text of `u` with its lines marked. -/
structure Run.Marks (m u : Run) : Prop where
  result : m.result = u.result
  written : Marked m.written u.written

theorem Run.Marks.failed (e : Error) : Run.Marks ⟨"", .error e⟩ ⟨"", .error e⟩ :=
  ⟨rfl, Marked.empty⟩

theorem Pipeline.create_withMarks (d : Decoder) (o : Options) (b : Bool) :
    Pipeline.create d { o with marked := b } = (Pipeline.create d o).map (·.withMarks b) := by
  unfold Pipeline.create
  simp only [bind, Except.bind]
  split
  · cases o.skipLines.findSome? Value.unhashableKind <;> rfl
  · cases Filter.compileAll d.knownFields o.filters with
    | error e => rfl
    | ok fs => cases o.skipLines.findSome? Value.unhashableKind <;> rfl

namespace Parser

/-- The parser with lines marked or not. -/
def withMarks (p : Parser) (b : Bool) : Parser :=
  { p with options := { p.options with marked := b } }

theorem prepare_withMarks (p : Parser) (b : Bool) :
    (p.withMarks b).prepare = p.prepare.map (·.withMarks b) := by
  have hprob : (p.withMarks b).options.problems = p.options.problems := rfl
  have hdec : (p.withMarks b).decoder = p.decoder := rfl
  unfold prepare
  simp only [hprob, hdec, bind, Except.bind]
  split
  · rfl
  · cases p.decoder with
    | error e => rfl
    | ok d => exact Pipeline.create_withMarks d p.options b

/-- A prepared pipeline without marks, given marks, is the pipeline prepared with them. -/
theorem prepare_marked {p : Parser} {pl : Pipeline} (h : (p.withMarks false).prepare = .ok pl) :
    (p.withMarks true).prepare = .ok (pl.withMarks true) ∧ pl.options.marked = false := by
  refine ⟨?_, by rw [(prepare_fresh h).2.2.2]; rfl⟩
  rw [show p.withMarks true = (p.withMarks false).withMarks true from rfl, prepare_withMarks, h]
  rfl

theorem prepare_marked_error {p : Parser} {e : Error} (h : (p.withMarks false).prepare = .error e) :
    (p.withMarks true).prepare = .error e := by
  rw [show p.withMarks true = (p.withMarks false).withMarks true from rfl, prepare_withMarks, h]
  rfl

theorem runFeed_marks {pl : Pipeline} (hpl : pl.options.marked = false) (feed : LineFeed)
    (hfeed : ∀ l ∈ feed.lines, '\n' ∉ l.toList) (source : String) (budget : Option Nat) :
    (runFeed (pl.withMarks true) feed source budget).Marks (runFeed pl feed source budget) := by
  have h₀ : Progress.Marks { pipeline := pl.withMarks true } { pipeline := pl } :=
    ⟨rfl, hpl, rfl, Marked.empty⟩
  obtain ⟨hg, hr⟩ := feedLines_marks budget feed.failure h₀ feed.lines hfeed
  unfold runFeed
  generalize feedLines budget feed.failure { pipeline := pl.withMarks true } feed.lines = m at hg hr
  generalize feedLines budget feed.failure { pipeline := pl } feed.lines = u at hg hr
  obtain ⟨gm, rm⟩ := m
  obtain ⟨gu, ru⟩ := u
  dsimp only at hg hr
  subst hr
  cases rm with
  | error e => exact ⟨rfl, hg.written⟩
  | ok b => exact ⟨by simp only [hg.tally], hg.written⟩

theorem parseFeed_marks (p : Parser) (feed : LineFeed) (hfeed : ∀ l ∈ feed.lines, '\n' ∉ l.toList)
    (source : String) (budget : Option Nat) :
    ((p.withMarks true).parseFeed feed source budget).Marks
      ((p.withMarks false).parseFeed feed source budget) := by
  unfold parseFeed
  cases h : (p.withMarks false).prepare with
  | error e =>
    rw [prepare_marked_error h]
    exact Run.Marks.failed e
  | ok pl =>
    obtain ⟨hm, hpl⟩ := prepare_marked h
    rw [hm]
    exact runFeed_marks hpl feed hfeed source budget

theorem parseText_marks (p : Parser) (text : String) :
    ((p.withMarks true).parseText text).Marks ((p.withMarks false).parseText text) :=
  parseFeed_marks p _ (fun _ ↦ newline_not_mem_of_mem_textLines) "" none

theorem parseFile_marks (p : Parser) (t : FileTree) (path : String) :
    ((p.withMarks true).parseFile t path).Marks ((p.withMarks false).parseFile t path) := by
  unfold parseFile
  cases h : (p.withMarks false).prepare with
  | error e =>
    rw [prepare_marked_error h]
    exact Run.Marks.failed e
  | ok pl =>
    obtain ⟨hm, hpl⟩ := prepare_marked h
    rw [hm]
    cases t.checkPath path with
    | error e => exact Run.Marks.failed e
    | ok bytes => exact runFeed_marks hpl _ (Archive.ByteFeed.newline_not_mem_of_mem_lines _) _ _

theorem parseGzip_marks (p : Parser) (t : FileTree) (path : String) :
    ((p.withMarks true).parseGzip t path).Marks ((p.withMarks false).parseGzip t path) := by
  unfold parseGzip
  cases h : (p.withMarks false).prepare with
  | error e =>
    rw [prepare_marked_error h]
    exact Run.Marks.failed e
  | ok pl =>
    obtain ⟨hm, hpl⟩ := prepare_marked h
    rw [hm]
    cases t.checkPath path with
    | error e => exact Run.Marks.failed e
    | ok bytes =>
      dsimp only
      split
      · exact Run.Marks.failed _
      · exact runFeed_marks hpl _ (Archive.ByteFeed.newline_not_mem_of_mem_lines _) _ _

end Parser

/-- The loop over the entries of an archive, with marks and without: each entry is a driver loop
from a fresh count, and the loops stay related from one entry to the next. -/
theorem readEntries_marks (bytes : ByteArray) (glob : Value) (fuel : Nat) (budget : Option Nat)
    {pl : Pipeline} (hpl : pl.options.marked = false) (t : Tally) {wm wu : String}
    (hw : Marked wm wu) (entries : List Archive.ZipEntry) :
    (readEntries bytes glob fuel budget (pl.withMarks true) t wm entries).2 =
        (readEntries bytes glob fuel budget pl t wu entries).2 ∧
      Marked (readEntries bytes glob fuel budget (pl.withMarks true) t wm entries).1
        (readEntries bytes glob fuel budget pl t wu entries).1 := by
  induction fuel generalizing budget pl t wm wu entries with
  | zero => exact ⟨rfl, hw⟩
  | succ fuel ih =>
    simp only [readEntries]
    cases nextEntry bytes glob entries with
    | error e => exact ⟨rfl, hw⟩
    | ok found =>
      cases found with
      | none => exact ⟨rfl, hw⟩
      | some x =>
        obtain ⟨e, start, rest⟩ := x
        have h₀ : Progress.Marks { pipeline := (pl.withMarks true).startEntry (some e.name) }
            { pipeline := pl.startEntry (some e.name) } := ⟨rfl, hpl, rfl, Marked.empty⟩
        obtain ⟨hg, hr⟩ := feedLines_marks none (entryFeed bytes e start).lines.failure h₀
          _ (Archive.ByteFeed.newline_not_mem_of_mem_lines _)
        dsimp only
        generalize feedLines none (entryFeed bytes e start).lines.failure
          { pipeline := (pl.withMarks true).startEntry (some e.name) }
          (entryFeed bytes e start).lines.lines = m at hg hr ⊢
        generalize feedLines none (entryFeed bytes e start).lines.failure
          { pipeline := pl.startEntry (some e.name) } (entryFeed bytes e start).lines.lines = u
          at hg hr ⊢
        obtain ⟨gm, rm⟩ := m
        obtain ⟨gu, ru⟩ := u
        dsimp only at hg hr ⊢
        subst hr
        cases rm with
        | error err => exact ⟨rfl, hw.append hg.written⟩
        | ok b =>
          dsimp only
          rw [hg.tally]
          split
          · rw [hg.pipeline]
            exact ih _ hg.unmarked _ (hw.append hg.written) _
          · exact ⟨rfl, hw.append hg.written⟩

theorem Parser.parseZip_marks (p : Parser) (t : FileTree) (path : String) (glob : Value)
    (budget : Option Nat) :
    ((p.withMarks true).parseZip t path glob budget).Marks
      ((p.withMarks false).parseZip t path glob budget) := by
  unfold Parser.parseZip
  cases h : (p.withMarks false).prepare with
  | error e =>
    simp only [Parser.prepare_marked_error h, bind, Except.bind]
    exact Run.Marks.failed e
  | ok pl =>
    obtain ⟨hm, hpl⟩ := Parser.prepare_marked h
    simp only [hm, bind, Except.bind]
    cases validateGlobValue glob with
    | error e => exact Run.Marks.failed e
    | ok u =>
      cases t.checkPath path with
      | error e => exact Run.Marks.failed e
      | ok bytes =>
        dsimp only
        cases isZipArchive bytes with
        | error f => exact Run.Marks.failed _
        | ok z =>
          cases z with
          | false => exact Run.Marks.failed _
          | true =>
            dsimp only [pure, Except.pure]
            split
            · exact ⟨rfl, Marked.empty⟩
            · cases readDirectory bytes with
              | error prob => exact Run.Marks.failed _
              | ok entries =>
                obtain ⟨hr, hw⟩ := readEntries_marks bytes glob (entries.length + 1)
                  (budget.map (· - 1)) hpl {} Marked.empty entries
                exact ⟨by simp only [hr], hw⟩

/-- **Written output.** A parse of lines that returns has written, for the lines it read in order,
each line's output as the contract gives it, followed by a line feed; an archive parse, for the
lines of the entries it read in order, each numbered within its entry. And marking lines changes
nothing but the text written: a parse of a text, a file, a gzip file or an archive with marks
ends as it does without them, and its text is theirs with a mark on each physical line. -/
theorem Parser.written_output_marks (p : Parser) :
    (∀ (pl : Pipeline) (feed : LineFeed) (source : String) (budget : Option Nat) (w : String)
        (r : Tally), Parser.runFeed pl feed source budget = ⟨w, .ok r⟩ →
      ∃ k, pl.Writes (feed.lines.take k) w ∧ (r.cancelled = false → k = feed.lines.length)) ∧
    (∀ (t : FileTree) (path : String) (glob : Value) (budget : Option Nat) (w : String)
        (r : Tally) (bytes : ByteArray) (entries : List ZipEntry),
      p.parseZip t path glob budget = ⟨w, .ok r⟩ → t.checkPath path = .ok bytes →
      readDirectory bytes = .ok entries →
      ∃ pl ets k, p.prepare = .ok pl ∧
        ets.map (·.1) = (entries.filter (·.selectedBy glob)).take k ∧
        (r.cancelled = false → k = (entries.filter (·.selectedBy glob)).length) ∧
        (∀ x ∈ ets, ∃ start, openEntry bytes x.1 = .ok start ∧
          (entryFeed bytes x.1 start).lines = LineFeed.ofText x.2) ∧
        pl.WritesEntries ets w) ∧
    (∀ text, ((p.withMarks true).parseText text).Marks ((p.withMarks false).parseText text)) ∧
    (∀ t path, ((p.withMarks true).parseFile t path).Marks ((p.withMarks false).parseFile t path)) ∧
    (∀ t path,
      ((p.withMarks true).parseGzip t path).Marks ((p.withMarks false).parseGzip t path)) ∧
    ∀ t path glob budget, ((p.withMarks true).parseZip t path glob budget).Marks
      ((p.withMarks false).parseZip t path glob budget) :=
  ⟨fun _ _ _ _ _ _ h ↦ Parser.runFeed_writes h,
    fun _ _ _ _ _ _ _ _ h hc hd ↦ Parser.parseZip_writes h hc hd, Parser.parseText_marks p,
    Parser.parseFile_marks p, Parser.parseGzip_marks p, Parser.parseZip_marks p⟩

/-- A parse of one line that the labeled scheme refuses, and the parse of the archive of two
one-line logs: both return, and each has written what its pipeline writes for what it read. -/
theorem written_output_logs :
    (∃ pl w r, Parser.prepare { scheme := .labeled } = .ok pl ∧
      Parser.runFeed pl ⟨["x"], none⟩ "s" none = ⟨w, .ok r⟩ ∧
      ∃ k, pl.Writes ((["x"] : List String).take k) w ∧ (r.cancelled = false → k = 1)) ∧
    ∃ w r bytes entries, Parser.parseZip { scheme := .labeled }
        ⟨[(["a.zip"], .file (writeZip [("a.log", "x\n".toUTF8), ("b.log", "y\n".toUTF8)]))]⟩
        "a.zip" (.str "*") none = ⟨w, .ok r⟩ ∧
      FileTree.checkPath
        ⟨[(["a.zip"], .file (writeZip [("a.log", "x\n".toUTF8), ("b.log", "y\n".toUTF8)]))]⟩
        "a.zip" = .ok bytes ∧
      readDirectory bytes = .ok entries ∧
      ∃ pl ets k, Parser.prepare { scheme := .labeled } = .ok pl ∧
        ets.map (·.1) = (entries.filter (·.selectedBy (.str "*"))).take k ∧
        (r.cancelled = false → k = (entries.filter (·.selectedBy (.str "*"))).length) ∧
        (∀ x ∈ ets, ∃ start, openEntry bytes x.1 = .ok start ∧
          (entryFeed bytes x.1 start).lines = LineFeed.ofText x.2) ∧
        pl.WritesEntries ets w := by
  have hprep : (Parser.prepare { scheme := .labeled }).toOption.map
      (fun pl ↦ (Parser.runFeed pl ⟨["x"], none⟩ "s" none).result.toOption.isSome) = some true := by
    decide +kernel
  obtain ⟨pl, hp, hrun⟩ := ok_of_toOption_map hprep
  obtain ⟨r, hr⟩ := Option.isSome_iff_exists.mp hrun
  have hfeed : Parser.runFeed pl ⟨["x"], none⟩ "s" none =
      ⟨(Parser.runFeed pl ⟨["x"], none⟩ "s" none).written, .ok r⟩ := by
    rw [← eq_ok_of_toOption hr]
  obtain ⟨B, _, _, _, _, _, _, _, hc, -, -, hd, -⟩ := twoLogs_reads
  obtain ⟨w, r', h, -⟩ := twoLogs_parse
  have hwrites := Parser.written_output_marks { scheme := .labeled }
  exact ⟨⟨pl, _, r, hp, hfeed, hwrites.1 _ _ _ _ _ _ hfeed⟩,
    ⟨w, r', B, _, h, hc, hd, hwrites.2.1 _ _ _ _ _ _ _ _ h hc hd⟩⟩

end AccessLog

import AccessLog.Proofs.ArchiveMerge

/-!
# Cancellation

A parse may be cancelled from outside. Its budget is the number of times the parse is let go on:
a stream is checked before each line is read, and once more after the last one; an archive before
each entry is sought. When the budget is spent the parse stops where it stands, reports what it
has, and is marked cancelled.

Cancelling is the same as cutting the input short. A stream parse with a budget of `k` checks
reads the first `k` lines, never touching the rest of the source or its failure, and is the parse
of those lines alone, marked cancelled exactly when the source had at least `k` lines. An archive
parse with a budget of `k` reads, each to the end, the first `k` entries that the glob selects,
and is their merge, marked cancelled exactly when the archive held at least `k` of them.

## Cutting an entry list

The loop over an archive's entries seeks the next selected entry, so cutting its list after the
`n`-th selected entry (`takeSelected`) changes nothing it sees until it has read that entry: a loop
with a budget is the loop without one over the cut list (`readEntries_budget`).

## Main statements

* `feedLines_budget`: the driver loop with a budget is the loop without one over a prefix.
* `Parser.parseFeed_budget`: a stream parse with a budget is the parse of a prefix.
* `readEntries_budget`: the loop over entries with a budget is the loop over a cut list.
* `Parser.cancelled_parse_prefix`: cancelled parses are parses of a prefix of their input.
-/

namespace AccessLog

open Archive Text

/-! ## Streams -/

/-- The driver loop with a budget of `k` checks is the loop without a budget over the first `k`
lines, reaching the source's failure only when there are fewer lines than that; it is cancelled
exactly when the lines are at least `k`. -/
theorem feedLines_budget (k : Nat) (failure : Option ReadFault) (g : Progress) (ls : List String) :
    feedLines (some k) failure g ls =
      ((feedLines none (if k ≤ ls.length then none else failure) g (ls.take k)).1,
        (feedLines none (if k ≤ ls.length then none else failure) g (ls.take k)).2.map
          fun _ ↦ decide (k ≤ ls.length)) := by
  induction ls generalizing k g with
  | nil =>
    cases k with
    | zero => simp [feedLines, Except.map]
    | succ j =>
      have hb : (some (j + 1) == some 0) = false := rfl
      simp only [feedLines, hb, Bool.false_eq_true, ↓reduceIte, List.take_nil, List.length_nil]
      rcases failure with _ | f
      · rfl
      · cases f <;> rfl
  | cons l ls ih =>
    cases k with
    | zero => simp [feedLines, Except.map]
    | succ j =>
      rw [feedLines_cons, List.take_succ_cons, feedLines_cons]
      simp only [reduceCtorEq, beq_iff_eq, Option.some.injEq, Nat.add_one_ne_zero, ↓reduceIte,
        List.length_cons, Nat.add_le_add_iff_right]
      cases (g.pipeline.process l).2 with
      | error e => simp [Except.map]
      | ok o => exact ih j _

/-- A parse's run, its tally marked cancelled or not. -/
def Run.cancelledAs (b : Bool) (r : Run) : Run :=
  ⟨r.written, r.result.map fun t ↦ { t with cancelled := b }⟩

theorem Parser.runFeed_budget (pl : Pipeline) (feed : LineFeed) (source : String) (k : Nat) :
    Parser.runFeed pl feed source (some k) =
      (Parser.runFeed pl ⟨feed.lines.take k,
          if k ≤ feed.lines.length then none else feed.failure⟩ source none).cancelledAs
        (decide (k ≤ feed.lines.length)) := by
  unfold Parser.runFeed
  rw [feedLines_budget]
  generalize hres : feedLines none (if k ≤ feed.lines.length then none else feed.failure)
    { pipeline := pl } (feed.lines.take k) = res
  obtain ⟨g, r⟩ := res
  cases r with
  | error e => rfl
  | ok b =>
    obtain ⟨-, -, -, -, -, hnone⟩ := feedLines_eq_ok hres
    obtain ⟨rfl, -⟩ := hnone rfl
    rfl

/-- A stream parse with a budget of `k` checks is the parse of the first `k` lines without a
budget, reaching the source's failure only when there are fewer lines than that, and it is
cancelled exactly when the lines are at least `k`. -/
theorem Parser.parseFeed_budget (p : Parser) (feed : LineFeed) (source : String) (k : Nat) :
    p.parseFeed feed source (some k) =
      (p.parseFeed ⟨feed.lines.take k, if k ≤ feed.lines.length then none else feed.failure⟩
        source none).cancelledAs (decide (k ≤ feed.lines.length)) := by
  unfold Parser.parseFeed
  cases p.prepare with
  | error e => rfl
  | ok pl => exact Parser.runFeed_budget pl feed source k

/-! ## Cutting an entry list -/

/-- The entries up to and including the `n`-th one the glob selects (all of them when fewer are
selected). -/
def takeSelected (glob : Value) : Nat → List ZipEntry → List ZipEntry
  | 0, _ => []
  | _ + 1, [] => []
  | n + 1, e :: es => e :: takeSelected glob (if e.selectedBy glob then n else n + 1) es

variable {bytes : ByteArray} {glob : Value}

theorem filter_takeSelected (n : Nat) (es : List ZipEntry) :
    (takeSelected glob n es).filter (·.selectedBy glob) = (es.filter (·.selectedBy glob)).take n := by
  induction es generalizing n with
  | nil => cases n <;> rfl
  | cons e es ih =>
    cases n with
    | zero => rfl
    | succ n =>
      by_cases he : e.selectedBy glob
      · simp [takeSelected, he, ih]
      · simp [takeSelected, he, ih]

theorem length_takeSelected_le (n : Nat) (es : List ZipEntry) :
    (takeSelected glob n es).length ≤ es.length := by
  induction es generalizing n with
  | nil => cases n <;> simp [takeSelected]
  | cons e es ih =>
    cases n with
    | zero => simp [takeSelected]
    | succ n => simpa [takeSelected] using ih _

/-- Seeking the next entry in a list cut after a selected entry finds what it finds in the whole
list; the entries after it are cut after one selected entry fewer. -/
theorem nextEntry_takeSelected (n : Nat) (es : List ZipEntry) :
    nextEntry bytes glob (takeSelected glob (n + 1) es) =
      (nextEntry bytes glob es).map (Option.map fun x ↦ (x.1, x.2.1, takeSelected glob n x.2.2)) := by
  induction es with
  | nil => rfl
  | cons x xs ih =>
    cases hd : x.isDirectory? with
    | none =>
      have hx : x.selectedBy glob = false := by simp [ZipEntry.selectedBy, hd]
      simp [takeSelected, hx, nextEntry, hd, Except.map]
    | some d =>
      cases d with
      | true =>
        have hx : x.selectedBy glob = false := by simp [ZipEntry.selectedBy, hd]
        simp only [takeSelected, hx, Bool.false_eq_true, ↓reduceIte]
        rw [nextEntry, hd, nextEntry, hd]
        exact ih
      | false =>
        cases hm : matchEntryValue x.name glob with
        | error err =>
          have hx : x.selectedBy glob = false := by
            simp [ZipEntry.selectedBy, hd, hm, Except.toOption]
          simp [takeSelected, hx, nextEntry, hd, hm, Except.map]
        | ok m =>
          cases m with
          | false =>
            have hx : x.selectedBy glob = false := by
              simp [ZipEntry.selectedBy, hd, hm, Except.toOption]
            simp only [takeSelected, hx, Bool.false_eq_true, ↓reduceIte]
            rw [nextEntry, hd, hm, nextEntry, hd, hm]
            exact ih
          | true =>
            have hx : x.selectedBy glob = true := by
              simp [ZipEntry.selectedBy, hd, hm, Except.toOption]
            simp only [takeSelected, hx, ↓reduceIte]
            rw [nextEntry, hd, hm, nextEntry, hd, hm]
            cases openEntry bytes x <;> rfl

/-! ## The loop over the entries -/

/-- The loop over the entries with a budget of `j` more checks is the loop without a budget over
the entries cut after the `j + 1`-th selected one, marked cancelled when there were that many. -/
theorem readEntries_budget (fuel j : Nat) (pl : Pipeline) (t : Tally) (w : String)
    (es : List ZipEntry) (hfuel : es.length < fuel) :
    readEntries bytes glob fuel (some j) pl t w es =
      ((readEntries bytes glob fuel none pl t w (takeSelected glob (j + 1) es)).1,
        (readEntries bytes glob fuel none pl t w (takeSelected glob (j + 1) es)).2.map fun t' ↦
          { t' with cancelled :=
              t'.cancelled || decide (j + 1 ≤ (es.filter (·.selectedBy glob)).length) }) := by
  induction fuel generalizing j pl t w es with
  | zero => omega
  | succ fuel ih =>
    rw [readEntries, readEntries, nextEntry_takeSelected]
    cases hn : nextEntry bytes glob es with
    | error e => rfl
    | ok found =>
      cases found with
      | none =>
        simp [nextEntry_none hn, Except.map]
      | some x =>
        obtain ⟨e, start, rest⟩ := x
        obtain ⟨-, hsel, hlen⟩ := nextEntry_some hn
        simp only [Except.map, Option.map_some]
        generalize feedLines none (entryFeed bytes e start).lines.failure
          { pipeline := pl.startEntry (some e.name) } (entryFeed bytes e start).lines.lines = res
        obtain ⟨g, r⟩ := res
        cases r with
        | error err => rfl
        | ok b =>
          simp only [budgetLeft, bne_iff_ne, ne_eq, hsel, List.length_cons,
            Nat.add_le_add_iff_right]
          cases j with
          | zero =>
            cases fuel <;> simp [readEntries, takeSelected, nextEntry]
          | succ j =>
            simp only [reduceCtorEq, not_false_eq_true, ↓reduceIte, Nat.add_one_sub_one]
            exact ih j _ _ _ rest (by omega)

/-- An archive merge reads, of the list of entries, only those the glob selects. -/
theorem ArchiveMerge.of_filter_eq {p : Parser} {pl : Pipeline} {es es' : List ZipEntry}
    {ets : List (ZipEntry × String)} {w : String} {r : Tally}
    (h : ArchiveMerge p pl bytes glob es ets w r)
    (he : es.filter (·.selectedBy glob) = es'.filter (·.selectedBy glob)) :
    ArchiveMerge p pl bytes glob es' ets w r :=
  { h with selected := h.selected.trans he }

/-! ## Parses with a budget -/

/-- An archive parse with a budget of `k` checks that returns is the merge of the parses of the
first `k` entries the glob selects, each read whole, and it is cancelled exactly when the archive
held at least `k` of them. -/
theorem Parser.parseZip_budget {p : Parser} {t : FileTree} {path : String} {glob : Value}
    {k : Nat} {w : String} {r : Tally} {entries : List ZipEntry}
    (h : p.parseZip t path glob (some k) = ⟨w, .ok r⟩) (hc : t.checkPath path = .ok bytes)
    (hd : readDirectory bytes = .ok entries) :
    ∃ pl ets, p.prepare = .ok pl ∧ r.source = baseName path ∧
      ArchiveMerge p pl bytes glob ((entries.filter (·.selectedBy glob)).take k) ets w
        { r with cancelled := false } ∧
      r.cancelled = decide (k ≤ (entries.filter (·.selectedBy glob)).length) := by
  have htake : (takeSelected glob k entries).filter (·.selectedBy glob) =
      ((entries.filter (·.selectedBy glob)).take k).filter (·.selectedBy glob) := by
    rw [filter_takeSelected]
    refine (List.filter_eq_self.mpr fun x hx ↦ ?_).symm
    exact (List.mem_filter.mp (List.mem_of_mem_take hx)).2
  obtain ⟨pl, bytes', hp, hc', hcases⟩ := Parser.parseZip_eq_ok_cases h
  obtain rfl : bytes = bytes' := Except.ok.inj (hc.symm.trans hc')
  rcases hcases with ⟨hb, rfl, rfl⟩ | ⟨hb, entries', t', hd', hre, rfl⟩
  · obtain rfl : k = 0 := by simpa [budgetLeft] using hb
    refine ⟨pl, [], hp, rfl, ⟨by simp, by simp, rfl, rfl, rfl, ?_, ?_, rfl⟩, by simp⟩
    · intro rs hrs
      cases hrs
      simp
    · simp [entryCalls, Pipeline.session]
  · obtain rfl : entries = entries' := Except.ok.inj (hd.symm.trans hd')
    obtain ⟨j, rfl⟩ : ∃ j, k = j + 1 :=
      Nat.exists_eq_add_one.mpr (Nat.pos_of_ne_zero (by simpa [budgetLeft] using hb))
    rw [Option.map_some, Nat.add_one_sub_one, readEntries_budget _ j pl {} "" entries (by omega)]
      at hre
    generalize hre' : readEntries bytes glob (entries.length + 1) none pl {} ""
      (takeSelected glob (j + 1) entries) = res at hre
    obtain ⟨w', _ | t''⟩ := res
    · simp [Except.map] at hre
    · simp only [Except.map, Prod.mk.injEq, Except.ok.injEq] at hre
      obtain ⟨rfl, rfl⟩ := hre
      obtain ⟨ets, hm⟩ := readEntries_merge hp _ _
        (Nat.lt_succ_of_le (length_takeSelected_le _ entries)) hre'
      have hnc : t''.cancelled = false := hm.not_cancelled
      refine ⟨pl, ets, hp, rfl, ?_, by simp [hnc]⟩
      have hm' := hm.of_filter_eq htake
      exact ⟨hm'.selected, hm'.texts, hm'.names, hm'.consistent, rfl, hm'.sums,
        hm'.answered, hm'.written⟩

/-- **Cancellation.** A parse cancelled after `k` checks is the parse of a prefix of its input. A
stream parse reads the first `k` lines and no more, meeting the source's failure only when it had
fewer, and writes and counts what the parse of those lines alone writes and counts; it is
cancelled exactly when the source held at least `k` lines. An archive parse that returns has read,
each to its end, the first `k` entries the glob selects, lists them, and is the merge of their
parses; it is cancelled exactly when the archive held at least `k` of them. -/
theorem Parser.cancelled_parse_prefix (p : Parser) :
    (∀ (feed : LineFeed) (source : String) (k : Nat),
      p.parseFeed feed source (some k) =
        (p.parseFeed ⟨feed.lines.take k, if k ≤ feed.lines.length then none else feed.failure⟩
          source none).cancelledAs (decide (k ≤ feed.lines.length))) ∧
    ∀ (t : FileTree) (path : String) (glob : Value) (k : Nat) (w : String) (r : Tally)
      (bytes : ByteArray) (entries : List ZipEntry),
      p.parseZip t path glob (some k) = ⟨w, .ok r⟩ → t.checkPath path = .ok bytes →
      readDirectory bytes = .ok entries →
      ∃ pl ets, p.prepare = .ok pl ∧ r.source = baseName path ∧
        ArchiveMerge p pl bytes glob ((entries.filter (·.selectedBy glob)).take k) ets w
          { r with cancelled := false } ∧
        r.cancelled = decide (k ≤ (entries.filter (·.selectedBy glob)).length) :=
  ⟨p.parseFeed_budget, fun _ _ _ _ _ _ _ _ h hc hd ↦ Parser.parseZip_budget h hc hd⟩

/-- The archive of two one-line logs parsed with a budget of one check: the parse reads the first
entry, stops cancelled, and is the merge of that entry alone. -/
theorem cancelled_parse_prefix_archive :
    ∃ w r bytes entries, Parser.parseZip { scheme := .labeled }
        ⟨[(["a.zip"], .file (writeZip [("a.log", "x\n".toUTF8), ("b.log", "y\n".toUTF8)]))]⟩
        "a.zip" (.str "*") (some 1) = ⟨w, .ok r⟩ ∧
      FileTree.checkPath
        ⟨[(["a.zip"], .file (writeZip [("a.log", "x\n".toUTF8), ("b.log", "y\n".toUTF8)]))]⟩
        "a.zip" = .ok bytes ∧
      readDirectory bytes = .ok entries ∧ entries.length = 2 ∧ r.entries = ["a.log"] ∧
      ∃ pl ets, Parser.prepare { scheme := .labeled } = .ok pl ∧ r.source = baseName "a.zip" ∧
        ArchiveMerge { scheme := .labeled } pl bytes (.str "*")
          ((entries.filter (·.selectedBy (.str "*"))).take 1) ets w { r with cancelled := false } ∧
        r.cancelled = decide (1 ≤ (entries.filter (·.selectedBy (.str "*"))).length) := by
  obtain ⟨B, pl, e₁, e₂, s₁, s₂, g₁, g₂, hc, hz, hv, hd, hname₁, -, hn₁, -, hp, hfeed₁, -⟩ :=
    twoLogs_reads
  obtain ⟨w, t', hre, hentries⟩ : ∃ w t', readEntries B (.str "*") 3 (some 0) pl {} "" [e₁, e₂] =
      (w, .ok t') ∧ t'.entries = ["a.log"] :=
    ⟨_, _, by
      rw [readEntries_of_nextEntry_some hn₁ hfeed₁,
        if_neg (show ¬budgetLeft (some 0) = true by decide)],
      by simp [Tally.absorb, hname₁]⟩
  have h := Parser.parseZip_of_readEntries hp hv hc hz (show budgetLeft (some 1) = true from rfl)
    hd hre
  exact ⟨_, _, _, _, h, hc, hd, rfl, hentries,
    (Parser.cancelled_parse_prefix _).2 _ _ _ _ _ _ _ _ h hc hd⟩

end AccessLog

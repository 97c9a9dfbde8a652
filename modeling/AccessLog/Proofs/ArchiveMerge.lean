import Mathlib
import AccessLog.Source
import AccessLog.Proofs.Accounting
import AccessLog.Proofs.GlobMatching

/-!
# Archive parses as merges of entry parses

A parse of a zip archive reads the entries that are files and whose names match the glob, in the
order of the archive's directory. Each entry is read as a text of its own: its lines are numbered
from one, so the skip list applies to every entry afresh, and its tally is merged into the
archive's under the entry's name. Only the knowledge that a record was already written carries
over from one entry to the next, so the handler is told it writes the first record once in the
whole archive.

## The archive as a session

The lines of an archive are read as one session of calls (`Pipeline.session`): for each entry
read, a start of that entry, then its lines. The text written is what the session answers, line
by line and in order; the contract of every line of a session is known, with the count restarting
at each entry and the first-record flag carried across them.

## The tally

The tally of a run over lines is computed from the lines alone (`Pipeline.linesTally`), so a
parse of an entry's text on its own reaches the same counters, and the same audit entries but for
the entry they name (`linesTally_startEntry`). The archive's tally is these tallies merged.

## Main statements

* `nextEntry_some`: the entry sought next is the first one read.
* `readEntries_of_nextEntry_some`: one round of the loop over the entries.
* `readEntries_ok`: the loop over the entries, when it returns, as a session and a merge.
* `readEntries_merge`: the loop over the entries of a list as a merge of their parses.
* `Parser.parseZip_eq_ok`, `Parser.parseZip_of_readEntries`: an archive parse that returns is the
  loop over the entries, and an archive whose checks pass parses as that loop returns.
* `Parser.parseTexts_eq_linesTally`: the tallies of parses of texts.
* `Parser.parseZip_merge`: an archive parse is the merge of the parses of its entries' texts.
-/

namespace AccessLog

open Archive Text

/-! ## The entries read -/

/-- Whether a parse with the glob reads the entry: a file whose name matches the glob. -/
def Archive.ZipEntry.selectedBy (e : ZipEntry) (glob : Value) : Bool :=
  e.isDirectory? == some false && (matchEntryValue e.name glob).toOption == some true

variable {bytes : ByteArray} {glob : Value}

/-- The entry sought next is the first entry read, and it can be opened. -/
theorem nextEntry_some {es rest : List ZipEntry} {e : ZipEntry} {start : Nat}
    (h : nextEntry bytes glob es = .ok (some (e, start, rest))) :
    openEntry bytes e = .ok start ∧
      es.filter (·.selectedBy glob) = e :: rest.filter (·.selectedBy glob) ∧
      rest.length < es.length := by
  induction es with
  | nil => cases h
  | cons x xs ih =>
    unfold nextEntry at h
    cases hd : x.isDirectory? with
    | none => simp [hd] at h
    | some d =>
      cases d with
      | true =>
        simp only [hd] at h
        obtain ⟨ho, hf, hl⟩ := ih h
        have hx : x.selectedBy glob = false := by simp [ZipEntry.selectedBy, hd]
        exact ⟨ho, by rw [List.filter_cons_of_neg (by simp [hx]), hf], by simp; omega⟩
      | false =>
        simp only [hd] at h
        cases hm : matchEntryValue x.name glob with
        | error err => simp [hm] at h
        | ok m =>
          cases m with
          | false =>
            simp only [hm] at h
            obtain ⟨ho, hf, hl⟩ := ih h
            have hx : x.selectedBy glob = false := by
              simp [ZipEntry.selectedBy, hd, hm, Except.toOption]
            exact ⟨ho, by rw [List.filter_cons_of_neg (by simp [hx]), hf], by simp; omega⟩
          | true =>
            simp only [hm] at h
            cases ho : openEntry bytes x with
            | error prob => simp [ho] at h
            | ok s =>
              simp only [ho, Except.ok.injEq, Option.some.injEq, Prod.mk.injEq] at h
              obtain ⟨rfl, rfl, rfl⟩ := h
              have hx : x.selectedBy glob = true := by
                simp [ZipEntry.selectedBy, hd, hm, Except.toOption]
              exact ⟨ho, List.filter_cons_of_pos hx, by simp⟩

/-- When no entry is sought, none is left to read. -/
theorem nextEntry_none {es : List ZipEntry} (h : nextEntry bytes glob es = .ok none) :
    es.filter (·.selectedBy glob) = [] := by
  induction es with
  | nil => rfl
  | cons x xs ih =>
    unfold nextEntry at h
    cases hd : x.isDirectory? with
    | none => simp [hd] at h
    | some d =>
      cases d with
      | true =>
        simp only [hd] at h
        have hx : x.selectedBy glob = false := by simp [ZipEntry.selectedBy, hd]
        rw [List.filter_cons_of_neg (by simp [hx]), ih h]
      | false =>
        simp only [hd] at h
        cases hm : matchEntryValue x.name glob with
        | error err => simp [hm] at h
        | ok m =>
          cases m with
          | false =>
            simp only [hm] at h
            have hx : x.selectedBy glob = false := by
              simp [ZipEntry.selectedBy, hd, hm, Except.toOption]
            rw [List.filter_cons_of_neg (by simp [hx]), ih h]
          | true =>
            simp only [hm] at h
            cases ho : openEntry bytes x <;> simp [ho] at h

/-- An entry that is a file, that the glob selects and that opens is the next one sought. -/
theorem nextEntry_cons_of_opens {e : ZipEntry} {start : Nat} (es : List ZipEntry)
    (hd : e.isDirectory? = some false) (hm : matchEntryValue e.name glob = .ok true)
    (ho : openEntry bytes e = .ok start) :
    nextEntry bytes glob (e :: es) = .ok (some (e, start, es)) := by
  rw [nextEntry, hd]
  simp only [hm, ho]

/-! ## Merging tallies -/

/-- Merging tallies one by one adds up their counters and entry names, and keeps their audit
entries, in order, each naming the entry it came from. -/
theorem Tally.foldl_absorb (t : Tally) (xs : List (Tally × String)) :
    xs.foldl (fun t x ↦ t.absorb x.1 x.2) t =
      { t with total := t.total + (xs.map (·.1.total)).sum,
               matched := t.matched + (xs.map (·.1.matched)).sum,
               unmatched := t.unmatched + (xs.map (·.1.unmatched)).sum,
               excluded := t.excluded + (xs.map (·.1.excluded)).sum,
               skipped := t.skipped + (xs.map (·.1.skipped)).sum,
               audits := t.audits ++
                 xs.flatMap fun x ↦ x.1.audits.map fun a ↦ { a with entry := some x.2 },
               entries := t.entries ++ xs.map (·.2) } := by
  induction xs generalizing t with
  | nil => simp
  | cons x xs ih =>
    rw [List.foldl_cons, ih]
    simp [Tally.absorb, Int.add_assoc]

/-! ## Tallies of lines -/

namespace Pipeline

/-- The tally of lines reads of the pipeline only its decoder, options, filters, count and entry.
-/
theorem startEntry_linesTally {p q : Pipeline} (hd : q.decoder = p.decoder)
    (ho : q.options = p.options) (hf : q.filters = p.filters) (e : Option String)
    (ls : List String) : (q.startEntry e).linesTally ls = (p.startEntry e).linesTally ls := by
  obtain ⟨d, o, fs, n, e', f⟩ := p
  obtain ⟨d', o', fs', n', e'', f'⟩ := q
  cases hd
  cases ho
  cases hf
  rfl

/-- Read as an entry, lines are counted as on their own, from a fresh count; only their audit
entries name the entry. -/
theorem linesTally_startEntry (p : Pipeline) (h : p.count = 0) (e : Option String)
    (ls : List String) :
    (p.startEntry e).linesTally ls =
      { p.linesTally ls with
        audits := (p.linesTally ls).audits.map fun a ↦ { a with entry := e } } := by
  have hc : (p.startEntry e).count = p.count := by rw [count_startEntry, h]
  simp only [linesTally, hc, List.map_filterMap]
  congr 2
  funext x
  change (if p.verdict x.2 x.1 = some .unmatched then _ else none) = _
  split <;> rfl

/-- A run changes neither the decoder, nor the options, nor the filters. -/
theorem Runs.frame {p q : Pipeline} {ls : List String} {os : List Outcome} (h : p.Runs ls os q) :
    q.decoder = p.decoder ∧ q.options = p.options ∧ q.filters = p.filters := by
  induction h with
  | nil => exact ⟨rfl, rfl, rfl⟩
  | @cons p q l ls o os _ _ ih =>
    obtain ⟨hd, ho, hf⟩ := ih
    exact ⟨hd.trans (decoder_process p l), ho.trans (options_process p l),
      hf.trans (filters_process p l)⟩

/-! ## Sessions of an archive -/

theorem session_append (p : Pipeline) (cs cs' : List Call) :
    p.session (cs ++ cs') =
      (((p.session cs).1.session cs').1, (p.session cs).2 ++ ((p.session cs).1.session cs').2) := by
  induction cs generalizing p with
  | nil => rfl
  | cons c cs ih => simp [session, ih]

/-- A run over lines is the session of those lines, each answered with its outcome. -/
theorem Runs.session_lines {p q : Pipeline} {ls : List String} {os : List Outcome}
    (h : p.Runs ls os q) : p.session (ls.map .line) = (q, os.map fun o ↦ some (.ok o)) := by
  induction h with
  | nil => rfl
  | @cons p q l ls o os ho _ ih => simp [session, call, ih, ho]

end Pipeline

/-- The calls of reading archive entries, each with its text: a start of the entry, then its
lines. -/
def entryCalls (ets : List (ZipEntry × String)) : List Pipeline.Call :=
  ets.flatMap fun x ↦ .entry (some x.1.name) :: (textLines x.2).map Pipeline.Call.line

theorem entryCalls_cons (x : ZipEntry × String) (ets : List (ZipEntry × String)) :
    entryCalls (x :: ets) =
      (.entry (some x.1.name) :: (textLines x.2).map Pipeline.Call.line) ++ entryCalls ets :=
  rfl

/-- The text written for an answer: an answered line's output and a line feed; nothing for an
entry start or a line that failed. -/
def answerText : Option (Except Error Outcome) → String
  | some (.ok o) => o.writtenText
  | _ => ""

/-- Bytes read whole, without a break, are the lines of a text. -/
theorem Archive.ByteFeed.lines_of_whole (f : ByteFeed) (h : f.lines.failure = none) :
    ∃ text, f.lines = LineFeed.ofText text := by
  revert h
  unfold Archive.ByteFeed.lines
  split <;>
  · dsimp only
    split
    · exact fun _ ↦ ⟨_, rfl⟩
    · exact fun h ↦ by cases h

/-! ## The loop over the entries -/

/-- With no entry left to seek, the loop over the entries ends with what it has. -/
theorem readEntries_of_nextEntry_none {es : List ZipEntry} (h : nextEntry bytes glob es = .ok none)
    (fuel : Nat) (budget : Option Nat) (pl : Pipeline) (t : Tally) (w : String) :
    readEntries bytes glob (fuel + 1) budget pl t w es = (w, .ok t) := by
  rw [readEntries, h]

/-- One round of the loop over the entries: the entry sought next is read from a fresh count, its
text is written and its tally merged under its name, and the loop goes on while the budget lasts. -/
theorem readEntries_of_nextEntry_some {es rest : List ZipEntry} {e : ZipEntry} {start : Nat}
    (hn : nextEntry bytes glob es = .ok (some (e, start, rest))) {pl : Pipeline} {g : Progress}
    {b : Bool} (hf : feedLines none (entryFeed bytes e start).lines.failure
      { pipeline := pl.startEntry (some e.name) } (entryFeed bytes e start).lines.lines =
        (g, .ok b))
    (fuel : Nat) (budget : Option Nat) (t : Tally) (w : String) :
    readEntries bytes glob (fuel + 1) budget pl t w es =
      if budgetLeft budget then
        readEntries bytes glob fuel (budget.map (· - 1)) g.pipeline
          (t.absorb { g.tally with source := e.name } e.name) (w ++ g.written) rest
      else (w ++ g.written, .ok { t.absorb { g.tally with source := e.name } e.name with
        cancelled := true }) := by
  rw [readEntries, hn]
  simp only [hf]

/-- The loop over the entries of an archive, without cancellation and with fuel enough for every
entry, when it returns, has read the entries that are selected, in order, each whole as a text.
It has written what the session of starting each entry and reading its lines answers, none of
them failing, and has merged the tallies of the entries' lines. -/
theorem readEntries_ok (fuel : Nat) (pl : Pipeline) (t : Tally) (w : String)
    (es : List ZipEntry) {w' : String} {t' : Tally} (hfuel : es.length < fuel)
    (h : readEntries bytes glob fuel none pl t w es = (w', .ok t')) :
    ∃ ets : List (ZipEntry × String),
      ets.map (·.1) = es.filter (·.selectedBy glob) ∧
      (∀ x ∈ ets, ∃ start, openEntry bytes x.1 = .ok start ∧
        (entryFeed bytes x.1 start).lines = LineFeed.ofText x.2) ∧
      (∀ a ∈ (pl.session (entryCalls ets)).2, ∀ e, a ≠ some (.error e)) ∧
      w' = w ++ String.join ((pl.session (entryCalls ets)).2.map answerText) ∧
      t' = (ets.map fun x ↦
          ((pl.startEntry (some x.1.name)).linesTally (textLines x.2), x.1.name)).foldl
        (fun t y ↦ t.absorb y.1 y.2) t ∧
      (t.consistent = true → t'.consistent = true) := by
  induction fuel generalizing pl t w es with
  | zero => omega
  | succ fuel ih =>
    unfold readEntries at h
    cases hn : nextEntry bytes glob es with
    | error e => simp [hn] at h
    | ok found =>
      cases found with
      | none =>
        simp only [hn, Prod.mk.injEq, Except.ok.injEq] at h
        obtain ⟨rfl, rfl⟩ := h
        refine ⟨[], by rw [nextEntry_none hn]; rfl, by simp, ?_, ?_, rfl, id⟩ <;>
          simp [entryCalls, Pipeline.session]
      | some x =>
        obtain ⟨e, start, rest⟩ := x
        obtain ⟨hopen, hsel, hlen⟩ := nextEntry_some hn
        simp only [hn] at h
        generalize hf : feedLines none (entryFeed bytes e start).lines.failure
          { pipeline := pl.startEntry (some e.name) } (entryFeed bytes e start).lines.lines = res at h
        obtain ⟨g, res⟩ := res
        cases res with
        | error err => simp at h
        | ok b =>
          obtain ⟨os, hrun, htally, hwritten, hall, hnone⟩ := feedLines_eq_ok hf
          obtain ⟨rfl, hwhole⟩ := hnone rfl
          obtain ⟨text, htext⟩ := (entryFeed bytes e start).lines_of_whole hwhole
          rw [hall rfl, List.take_length, htext] at hrun
          change (pl.startEntry (some e.name)).Runs (textLines text) os g.pipeline at hrun
          have hg : g.tally = (pl.startEntry (some e.name)).linesTally (textLines text) := by
            rw [htally]
            exact hrun.tally_eq
          have hw : g.written = String.join (os.map Outcome.writtenText) := by
            rw [hwritten]
            exact String.empty_append ..
          obtain ⟨hd, ho, hfl⟩ := hrun.frame
          dsimp only at h
          rw [if_pos (show budgetLeft none = true from rfl)] at h
          obtain ⟨ets, hsel', htexts, hok, hw', ht', hcons⟩ := ih g.pipeline _ _ rest (by omega) h
          have hA : pl.session (.entry (some e.name) :: (textLines text).map Pipeline.Call.line) =
              (g.pipeline, none :: os.map fun o ↦ some (.ok o)) := by
            simp only [Pipeline.session, Pipeline.call, hrun.session_lines]
          have hsession : pl.session (entryCalls ((e, text) :: ets)) =
              ((g.pipeline.session (entryCalls ets)).1,
                none :: os.map (fun o ↦ some (.ok o)) ++ (g.pipeline.session (entryCalls ets)).2) := by
            rw [entryCalls_cons, Pipeline.session_append, hA]
          refine ⟨(e, text) :: ets, ?_, ?_, ?_, ?_, ?_, ?_⟩
          · rw [List.map_cons, hsel', hsel]
          · intro x hx
            rcases List.mem_cons.mp hx with rfl | hx
            · exact ⟨start, hopen, htext⟩
            · exact htexts x hx
          · rw [hsession]
            intro a ha err
            rcases List.mem_cons.mp ha with rfl | ha
            · simp
            rcases List.mem_append.mp ha with ha | ha
            · obtain ⟨o, -, rfl⟩ := List.mem_map.mp ha
              simp
            · exact hok a ha err
          · rw [hsession, hw', hw]
            simp [answerText, String.append_assoc, Function.comp_def]
          · rw [ht', List.map_cons, List.foldl_cons, ← hg]
            congr 1
            · exact List.map_congr_left fun x _ ↦ by
                rw [Pipeline.startEntry_linesTally hd ho hfl]
                rfl
          · intro hc
            exact hcons (Aggregator.merge_consistent _ _ _ hc (hg ▸ hrun.linesTally_consistent))

/-! ## Archive parses -/

namespace Parser

/-- Parses of texts that return have the tallies of the texts' lines. -/
theorem parseTexts_eq_linesTally {p : Parser} {pl : Pipeline} (hp : p.prepare = .ok pl)
    {α : Type} {xs : List (α × String)} {rs : List Tally}
    (h : List.Forall₂ (fun x rᵢ ↦ ∃ wᵢ, p.parseText x.2 = ⟨wᵢ, .ok rᵢ⟩) xs rs) :
    rs = xs.map fun x ↦ pl.linesTally (textLines x.2) := by
  induction h with
  | nil => rfl
  | cons hx _ ih =>
    obtain ⟨wᵢ, hx⟩ := hx
    obtain ⟨pl', hp', -, rfl⟩ := parseText_eq_linesTally hx
    rw [hp] at hp'
    cases hp'
    rw [ih, List.map_cons]

end Parser

/-- `ArchiveMerge p pl bytes glob entries ets w r`: the archive parse that wrote `w` and reached
the tally `r` is the merge of parses of its entries' texts. `ets` pairs the entries read, the
files among `entries` whose names match `glob`, in order, each with the text it reads whole as.
The tally names them in order, is consistent and not cancelled, and each of its counters is the
sum of that counter over the parses of the entries' texts by `p`, its audit entries theirs in
order, naming their entries. The text written is what the session of starting each entry and
reading its lines answers on the prepared pipeline `pl`, no line failing: the lines of every
entry are numbered from one, and only the first record of the whole archive is written as the
first. -/
structure ArchiveMerge (p : Parser) (pl : Pipeline) (bytes : ByteArray) (glob : Value)
    (entries : List ZipEntry) (ets : List (ZipEntry × String)) (w : String) (r : Tally) :
    Prop where
  selected : ets.map (·.1) = entries.filter (·.selectedBy glob)
  texts : ∀ x ∈ ets, ∃ start, openEntry bytes x.1 = .ok start ∧
    (entryFeed bytes x.1 start).lines = LineFeed.ofText x.2
  names : r.entries = ets.map (·.1.name)
  consistent : r.consistent = true
  not_cancelled : r.cancelled = false
  sums : ∀ rs : List Tally, List.Forall₂ (fun x rᵢ ↦ ∃ wᵢ, p.parseText x.2 = ⟨wᵢ, .ok rᵢ⟩) ets rs →
    r.total = (rs.map (·.total)).sum ∧ r.matched = (rs.map (·.matched)).sum ∧
    r.unmatched = (rs.map (·.unmatched)).sum ∧ r.excluded = (rs.map (·.excluded)).sum ∧
    r.skipped = (rs.map (·.skipped)).sum ∧
    r.audits = (List.zipWith (fun x rᵢ ↦ rᵢ.audits.map fun a ↦ { a with entry := some x.1.name })
      ets rs).flatten
  answered : ∀ a ∈ (pl.session (entryCalls ets)).2, ∀ e, a ≠ some (.error e)
  written : w = String.join ((pl.session (entryCalls ets)).2.map answerText)

/-- The loop over the entries of a list, without a budget and with fuel enough, that returns
from a prepared pipeline and an empty tally is the merge of the parses of the selected entries'
texts. -/
theorem readEntries_merge {p : Parser} {pl : Pipeline} (hp : p.prepare = .ok pl) (fuel : Nat)
    (es : List ZipEntry) (hfuel : es.length < fuel) {w : String} {t' : Tally}
    (h : readEntries bytes glob fuel none pl {} "" es = (w, .ok t')) :
    ∃ ets, ArchiveMerge p pl bytes glob es ets w t' := by
  obtain ⟨ets, hsel, htexts, hok, hw, ht, hcons⟩ := readEntries_ok fuel pl {} "" es hfuel h
  obtain ⟨hcount, -, -, -⟩ := Parser.prepare_fresh hp
  have hr := Tally.foldl_absorb {} (ets.map fun x ↦
    ((pl.startEntry (some x.1.name)).linesTally (textLines x.2), x.1.name))
  rw [← ht] at hr
  have hentry : ∀ x : ZipEntry × String,
      (pl.startEntry (some x.1.name)).linesTally (textLines x.2) =
        { pl.linesTally (textLines x.2) with
          audits := (pl.linesTally (textLines x.2)).audits.map
            fun a ↦ { a with entry := some x.1.name } } :=
    fun x ↦ Pipeline.linesTally_startEntry pl hcount _ _
  refine ⟨ets, hsel, htexts, ?_, hcons rfl, ?_, fun rs hrs ↦ ?_, hok, ?_⟩
  · simp [hr, Function.comp_def]
  · rw [hr]
  · rw [Parser.parseTexts_eq_linesTally hp hrs]
    simp [hr, hentry, Function.comp_def, List.zipWith_map_right, List.zipWith_self,
      List.flatMap_def]
  · rw [hw]
    exact String.empty_append ..

/-- Renaming the tally of an archive merge changes nothing the merge reads. -/
theorem ArchiveMerge.with_source {p : Parser} {pl : Pipeline} {entries : List ZipEntry}
    {ets : List (ZipEntry × String)} {w : String} {r : Tally}
    (h : ArchiveMerge p pl bytes glob entries ets w r) (s : String) :
    ArchiveMerge p pl bytes glob entries ets w { r with source := s } :=
  ⟨h.selected, h.texts, h.names, h.consistent, h.not_cancelled, h.sums, h.answered, h.written⟩

/-- An archive parse that returns has prepared its pipeline and found the archive. Either its
budget was spent before the first entry, and it wrote nothing and is cancelled; or it read the
directory and is the loop over the entries from an empty tally, named after the archive. -/
theorem Parser.parseZip_eq_ok_cases {p : Parser} {t : FileTree} {path : String}
    {budget : Option Nat} {w : String} {r : Tally}
    (h : p.parseZip t path glob budget = ⟨w, .ok r⟩) :
    ∃ pl bytes, p.prepare = .ok pl ∧ t.checkPath path = .ok bytes ∧
      ((budgetLeft budget = false ∧ w = "" ∧ r = { source := baseName path, cancelled := true }) ∨
        (budgetLeft budget = true ∧ ∃ entries t', readDirectory bytes = .ok entries ∧
          readEntries bytes glob (entries.length + 1) (budget.map (· - 1)) pl {} "" entries =
            (w, .ok t') ∧ r = { t' with source := baseName path })) := by
  unfold parseZip at h
  cases hp : p.prepare with
  | error e => simp [hp, bind, Except.bind] at h
  | ok pl =>
    simp only [hp, bind, Except.bind] at h
    cases hv : validateGlobValue glob with
    | error e => simp [hv] at h
    | ok u =>
      simp only [hv] at h
      cases hc : t.checkPath path with
      | error e => simp [hc] at h
      | ok bytes =>
        simp only [hc] at h
        cases hz : isZipArchive bytes with
        | error f => simp [hz, throw, throwThe, MonadExceptOf.throw] at h
        | ok z =>
          cases z with
          | false => simp [hz, throw, throwThe, MonadExceptOf.throw] at h
          | true =>
            simp only [hz, pure, Except.pure] at h
            refine ⟨pl, bytes, rfl, rfl, ?_⟩
            cases hb : budgetLeft budget with
            | false =>
              simp only [hb, Bool.not_false, ↓reduceIte, Run.mk.injEq, Except.ok.injEq] at h
              exact .inl ⟨rfl, h.1.symm, h.2.symm⟩
            | true =>
              simp only [hb, Bool.not_true, Bool.false_eq_true, ↓reduceIte] at h
              cases hd : readDirectory bytes with
              | error prob => simp [hd] at h
              | ok entries =>
                simp only [hd] at h
                generalize hre : readEntries bytes glob (entries.length + 1)
                  (budget.map (· - 1)) pl {} "" entries = res at h
                obtain ⟨w', _ | t'⟩ := res
                · simp [Except.map] at h
                · simp only [Except.map, Run.mk.injEq, Except.ok.injEq] at h
                  obtain ⟨rfl, rfl⟩ := h
                  exact .inr ⟨rfl, entries, t', rfl, hre, rfl⟩

/-- An archive parse without cancellation that returns has prepared its pipeline, found the
archive and read its directory, and is the loop over the entries from an empty tally, named after
the archive. -/
theorem Parser.parseZip_eq_ok {p : Parser} {t : FileTree} {path : String} {glob : Value}
    {w : String} {r : Tally} (h : p.parseZip t path glob none = ⟨w, .ok r⟩) :
    ∃ pl bytes entries t', p.prepare = .ok pl ∧ t.checkPath path = .ok bytes ∧
      readDirectory bytes = .ok entries ∧
      readEntries bytes glob (entries.length + 1) none pl {} "" entries = (w, .ok t') ∧
      r = { t' with source := baseName path } := by
  obtain ⟨pl, bytes, hp, hc, ⟨hb, -⟩ | ⟨-, entries, t', hd, hre, rfl⟩⟩ :=
    Parser.parseZip_eq_ok_cases h
  · exact absurd hb (by decide)
  · exact ⟨pl, bytes, entries, t', hp, hc, hd, hre, rfl⟩

/-- An archive parse whose checks pass, with budget left, returns what the loop over the entries
returns, named after the archive. -/
theorem Parser.parseZip_of_readEntries {p : Parser} {t : FileTree} {path : String}
    {budget : Option Nat} {pl : Pipeline} {entries : List ZipEntry} {w : String} {t' : Tally}
    (hp : p.prepare = .ok pl) (hv : validateGlobValue glob = .ok ())
    (hc : t.checkPath path = .ok bytes) (hz : isZipArchive bytes = .ok true)
    (hb : budgetLeft budget = true) (hd : readDirectory bytes = .ok entries)
    (hre : readEntries bytes glob (entries.length + 1) (budget.map (· - 1)) pl {} "" entries =
      (w, .ok t')) :
    p.parseZip t path glob budget = ⟨w, .ok { t' with source := baseName path }⟩ := by
  simp [Parser.parseZip, hp, hv, hc, hz, hb, hd, hre, bind, Except.bind, pure, Except.pure,
    Except.map]

/-- **Archive merge.** An archive parse without cancellation that returns has read, in order, the
files of the archive whose names match the glob, each whole as a text, and is their merge: its
tally sums those of the parses of the entries' texts, and it has written what reading the entries
one after the other, as a session, writes. -/
theorem Parser.parseZip_merge {p : Parser} {t : FileTree} {path : String} {glob : Value}
    {w : String} {r : Tally} (h : p.parseZip t path glob none = ⟨w, .ok r⟩) :
    ∃ pl bytes entries ets, p.prepare = .ok pl ∧ t.checkPath path = .ok bytes ∧
      readDirectory bytes = .ok entries ∧ r.source = baseName path ∧
      ArchiveMerge p pl bytes glob entries ets w r := by
  obtain ⟨pl, bytes, entries, t', hp, hc, hd, hre, rfl⟩ := Parser.parseZip_eq_ok h
  obtain ⟨ets, hm⟩ := readEntries_merge hp _ entries (by omega) hre
  exact ⟨pl, bytes, entries, ets, hp, hc, hd, rfl, hm.with_source _⟩

/-- The archive of two one-line logs `a.log` and `b.log`, as the archive writer lays it out, in a
tree of one file: it is found and is a zip archive, the glob `*` is accepted, the directory lists
the two files and the glob selects both; each opens and reads whole as its one line, which the
labeled scheme reads without failing, the second after the first. -/
theorem twoLogs_reads :
    ∃ bytes pl e₁ e₂ s₁ s₂ g₁ g₂,
      FileTree.checkPath
        ⟨[(["a.zip"], .file (writeZip [("a.log", "x\n".toUTF8), ("b.log", "y\n".toUTF8)]))]⟩
        "a.zip" = .ok bytes ∧
      isZipArchive bytes = .ok true ∧ validateGlobValue (.str "*") = .ok () ∧
      readDirectory bytes = .ok [e₁, e₂] ∧ e₁.name = "a.log" ∧ e₂.name = "b.log" ∧
      nextEntry bytes (.str "*") [e₁, e₂] = .ok (some (e₁, s₁, [e₂])) ∧
      nextEntry bytes (.str "*") [e₂] = .ok (some (e₂, s₂, [])) ∧
      Parser.prepare { scheme := .labeled } = .ok pl ∧
      feedLines none (entryFeed bytes e₁ s₁).lines.failure
        { pipeline := pl.startEntry (some e₁.name) } (entryFeed bytes e₁ s₁).lines.lines =
          (g₁, .ok false) ∧
      feedLines none (entryFeed bytes e₂ s₂).lines.failure
        { pipeline := g₁.pipeline.startEntry (some e₂.name) } (entryFeed bytes e₂ s₂).lines.lines =
          (g₂, .ok false) := by
  generalize hB : writeZip [("a.log", "x\n".toUTF8), ("b.log", "y\n".toUTF8)] = B
  have hc : FileTree.checkPath ⟨[(["a.zip"], .file B)]⟩ "a.zip" = .ok B := by
    subst hB
    with_unfolding_all rfl
  have hz : (isZipArchive B).toOption = some true := by
    subst hB
    decide +kernel
  have hdir : (readDirectory B).toOption.map (fun es ↦ es.map fun e ↦ ((e.name, e.isDirectory?),
      (openEntry B e).toOption.map fun s ↦
        ((entryFeed B e s).lines.lines, (entryFeed B e s).lines.failure.isNone))) =
      some [(("a.log", some false), some (["x"], true)),
        (("b.log", some false), some (["y"], true))] := by
    subst hB
    decide +kernel
  have hfeeds : (Parser.prepare { scheme := .labeled }).toOption.map (fun pl ↦
      let g := feedLines none none { pipeline := pl.startEntry (some "a.log") } ["x"]
      (g.2.toOption, (feedLines none none
        { pipeline := g.1.pipeline.startEntry (some "b.log") } ["y"]).2.toOption)) =
      some (some false, some false) := by
    decide +kernel
  have hv : validateGlobValue (.str "*") = .ok () := by
    with_unfolding_all rfl
  have hstar : ∀ e : ZipEntry, e.name = "a.log" ∨ e.name = "b.log" →
      matchEntryValue e.name (.str "*") = .ok true := by
    rintro e (h | h) <;> rw [h] <;> exact matchEntryValue_star (by decide)
  obtain ⟨es, hd, hes⟩ := ok_of_toOption_map hdir
  obtain ⟨e₁, es, rfl, h₁, hes⟩ := List.map_eq_cons_iff.mp hes
  obtain ⟨e₂, es, rfl, h₂, hes⟩ := List.map_eq_cons_iff.mp hes
  obtain rfl := List.map_eq_nil_iff.mp hes
  simp only [Prod.mk.injEq] at h₁ h₂
  obtain ⟨⟨hname₁, hdir₁⟩, ho₁⟩ := h₁
  obtain ⟨⟨hname₂, hdir₂⟩, ho₂⟩ := h₂
  obtain ⟨s₁, ho₁, hlines₁⟩ := ok_of_toOption_map ho₁
  obtain ⟨s₂, ho₂, hlines₂⟩ := ok_of_toOption_map ho₂
  simp only [Prod.mk.injEq, Option.isNone_iff_eq_none] at hlines₁ hlines₂
  obtain ⟨pl, hp, hf⟩ := ok_of_toOption_map hfeeds
  simp only [Prod.mk.injEq] at hf
  obtain ⟨g₁, hg₁⟩ : ∃ g, feedLines none none { pipeline := pl.startEntry (some "a.log") } ["x"] =
      (g, .ok false) := ⟨_, Prod.ext rfl (eq_ok_of_toOption hf.1)⟩
  rw [hg₁] at hf
  obtain ⟨g₂, hg₂⟩ : ∃ g, feedLines none none { pipeline := g₁.pipeline.startEntry (some "b.log") }
      ["y"] = (g, .ok false) := ⟨_, Prod.ext rfl (eq_ok_of_toOption hf.2)⟩
  refine ⟨B, pl, e₁, e₂, s₁, s₂, g₁, g₂, hc, eq_ok_of_toOption hz, hv, hd, hname₁, hname₂,
    nextEntry_cons_of_opens [e₂] hdir₁ (hstar e₁ (.inl hname₁)) ho₁,
    nextEntry_cons_of_opens [] hdir₂ (hstar e₂ (.inr hname₂)) ho₂, hp, ?_, ?_⟩
  · rw [hlines₁.1, hlines₁.2, hname₁, hg₁]
  · rw [hlines₂.1, hlines₂.2, hname₂, hg₂]

/-- The parse of the archive of two one-line logs with the glob `*` returns, and lists both
entries. -/
theorem twoLogs_parse :
    ∃ w r, Parser.parseZip { scheme := .labeled }
        ⟨[(["a.zip"], .file (writeZip [("a.log", "x\n".toUTF8), ("b.log", "y\n".toUTF8)]))]⟩
        "a.zip" (.str "*") none = ⟨w, .ok r⟩ ∧ r.entries = ["a.log", "b.log"] := by
  obtain ⟨B, pl, e₁, e₂, s₁, s₂, g₁, g₂, hc, hz, hv, hd, hname₁, hname₂, hn₁, hn₂, hp, hfeed₁,
    hfeed₂⟩ := twoLogs_reads
  obtain ⟨w, t', hre, hentries⟩ : ∃ w t', readEntries B (.str "*") 3 none pl {} "" [e₁, e₂] =
      (w, .ok t') ∧ t'.entries = ["a.log", "b.log"] :=
    ⟨_, _, by
      rw [readEntries_of_nextEntry_some hn₁ hfeed₁, if_pos (show budgetLeft none = true from rfl),
        readEntries_of_nextEntry_some hn₂ hfeed₂,
        if_pos (show budgetLeft (Option.map (· - 1) none) = true from rfl),
        readEntries_of_nextEntry_none rfl],
      by simp [Tally.absorb, hname₁, hname₂]⟩
  exact ⟨_, _, Parser.parseZip_of_readEntries hp hv hc hz (show budgetLeft none = true from rfl)
    hd hre, hentries⟩

/-- The archive of two one-line logs, both selected by the glob `*`: the parse returns, lists
both entries, and is their merge. -/
theorem parseZip_merge_two_entries :
    ∃ w r, Parser.parseZip { scheme := .labeled }
        ⟨[(["a.zip"], .file (writeZip [("a.log", "x\n".toUTF8), ("b.log", "y\n".toUTF8)]))]⟩
        "a.zip" (.str "*") none = ⟨w, .ok r⟩ ∧ r.entries = ["a.log", "b.log"] ∧
      ∃ pl bytes entries ets, Parser.prepare { scheme := .labeled } = .ok pl ∧
        FileTree.checkPath
          ⟨[(["a.zip"], .file (writeZip [("a.log", "x\n".toUTF8), ("b.log", "y\n".toUTF8)]))]⟩
          "a.zip" = .ok bytes ∧
        readDirectory bytes = .ok entries ∧ r.source = baseName "a.zip" ∧
        ArchiveMerge { scheme := .labeled } pl bytes (.str "*") entries ets w r := by
  obtain ⟨w, r, h, hentries⟩ := twoLogs_parse
  exact ⟨w, r, h, hentries, Parser.parseZip_merge h⟩

end AccessLog

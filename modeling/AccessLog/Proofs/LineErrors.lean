import AccessLog.Proofs.ArchiveMerge
import AccessLog.Proofs.Marking

/-!
# Errors that stop a parse at a line

A parse fails in one of two ways. Before any line is read it may refuse its options, its filters,
its glob, its path or its archive: none of these errors names a line. Once lines are read, a line
may fail (a filter that cannot be applied, a format that fails or answers with something other
than text), or the source may break before the next line: these errors name the line, and they
stop the parse at once.

The second kind is characterized exactly. A parse stops with an error naming a line if and only if
it carried some first lines of the current source through, none failing, and the next line
failed with that error, or there was no next line and the source broke (`Pipeline.StopsAt`). The
error then names that next line, counted from one in the current source, and what was written is
the text of the lines carried through, the failing line adding nothing. In an archive the earlier
entries were each found and read whole first (`ReadsWhole`), and their text comes before.

## The two halves

* Errors of the first kind are shown to name no line by a small calculus on computations
  (`NamesNoLine`), one rule per way of building them, applied along the definitions.
* The driver loop is followed line by line: `feedLines_eq_error` reads a stopped loop back as a run
  and a failing next step, `feedLines_append` runs the loop along a known run, and the two give
  the characterization of each entry point.

## Main statements

* `feedLines_eq_error`, `feedLines_of_fails`: the driver loop stops exactly at its first failure.
* `Parser.runFeed_eq_error_iff`: the same for a prepared parse of a feed.
* `Pipeline.StopsAt.lineNumber`: the error names the line after those carried through.
* `readEntries_line_error_iff`: the loop over an archive's entries stops at a line exactly when it
  has read some entries whole and the lines of the next one stop.
* `Parser.line_error_stops`: every entry point, as one statement.
-/

namespace AccessLog

open Archive Text

/-! ## Errors that name no line -/

/-- The number of the line an error names, if it names one. -/
def Error.lineNumber : Error → Option Int
  | .line _ n _ => n
  | _ => none

/-- `NamesNoLine x`: the computation `x` fails, if at all, with an error that names no line. -/
def NamesNoLine {α : Type} (x : Except Error α) : Prop :=
  ∀ e, x = .error e → e.lineNumber = none

namespace NamesNoLine

variable {α β : Type}

theorem ok (a : α) : NamesNoLine (.ok a : Except Error α) := fun _ h ↦ by cases h

theorem pure (a : α) : NamesNoLine (Pure.pure a : Except Error α) := ok a

theorem error {e : Error} (h : e.lineNumber = none) : NamesNoLine (.error e : Except Error α) :=
  fun _ he ↦ by cases he; exact h

theorem throw {e : Error} (h : e.lineNumber = none) :
    NamesNoLine (MonadExcept.throw e : Except Error α) :=
  error h

theorem bind {x : Except Error α} {f : α → Except Error β} (hx : NamesNoLine x)
    (hf : ∀ a, NamesNoLine (f a)) : NamesNoLine (x >>= f) := by
  intro e h
  cases x with
  | error e' => cases h; exact hx _ rfl
  | ok a => exact hf a e h

theorem discard {x : Except Error α} (hx : NamesNoLine x) : NamesNoLine (Functor.discard x) := by
  intro e h
  cases x with
  | error e' => cases h; exact hx _ rfl
  | ok a => cases h

/-- A failure of an operation on values names no line. -/
theorem mapError_value {x : Except ValueFault α} : NamesNoLine (x.mapError Error.value) := by
  intro e h
  cases x with
  | error v => cases h; rfl
  | ok a => cases h

end NamesNoLine

/-! ### Preparing a parse -/

theorem Filter.compile_namesNoLine (s : String) (known : Option (List String)) :
    NamesNoLine (Filter.compile s known) := by
  unfold Filter.compile
  repeat' split
  all_goals first | exact .ok _ | exact .error rfl

theorem Filter.compileAll_namesNoLine (known : Option (List String)) (vs : List Value) :
    NamesNoLine (Filter.compileAll known vs) := by
  induction vs with
  | nil => exact .ok _
  | cons v vs ih =>
    refine .bind ?_ fun f ↦ .bind ih fun fs ↦ .pure _
    unfold Filter.compileValue
    split
    · exact Filter.compile_namesNoLine _ _
    · exact .error rfl

theorem Pipeline.create_namesNoLine (d : Decoder) (o : Options) :
    NamesNoLine (Pipeline.create d o) := by
  unfold Pipeline.create
  dsimp only
  split
  all_goals
    refine .bind ?_ fun fs ↦ ?_
    · first | exact .pure _ | exact Filter.compileAll_namesNoLine _ _
    · split
      · exact .error rfl
      · exact .pure _

theorem Parser.prepare_namesNoLine (p : Parser) : NamesNoLine p.prepare := by
  have hd : NamesNoLine p.decoder := by
    unfold Parser.decoder
    split
    · split
      · exact .error rfl
      · exact .ok _
    · exact .ok _
  unfold Parser.prepare
  dsimp only
  split
  · exact .bind (.throw rfl) fun _ ↦ .bind hd fun d ↦ Pipeline.create_namesNoLine d _
  · exact .bind hd fun d ↦ Pipeline.create_namesNoLine d _

theorem FileTree.checkPath_namesNoLine (t : FileTree) (path : String) :
    NamesNoLine (t.checkPath path) := by
  unfold FileTree.checkPath
  split
  · exact .error rfl
  · split
    · exact .error rfl
    · exact .error rfl
    · exact .ok _

/-! ### Globs and entries -/

theorem validateItems_namesNoLine (g : Value) (n fuel i : Nat) :
    NamesNoLine (validateItems g n fuel i) := by
  induction fuel generalizing i with
  | zero => exact .ok _
  | succ fuel ih =>
    unfold validateItems
    split
    · exact .ok _
    · refine .bind .mapError_value fun c ↦ ?_
      split
      · split
        · exact .throw rfl
        · exact ih _
      · split
        · dsimp only
          split
          · refine .bind .mapError_value fun v ↦ ?_
            split
            · refine .bind (.pure _) fun j ↦ ?_
              split
              · exact .bind (.discard .mapError_value) fun _ ↦ .throw rfl
              · exact .throw rfl
            · refine .bind (.throw rfl) fun j ↦ ?_
              split
              · exact .bind (.discard .mapError_value) fun _ ↦ .throw rfl
              · exact .throw rfl
          · refine .bind (.pure _) fun j ↦ ?_
            split
            · exact .bind (.discard .mapError_value) fun _ ↦ .throw rfl
            · exact .throw rfl
        · exact ih _

theorem validateGlob_go_namesNoLine (g : String) (cs : List Char) :
    NamesNoLine (validateGlob.go g cs) := by
  fun_induction validateGlob.go g cs with
  | case1 => exact .ok _
  | case2 | case4 => exact .error rfl
  | case3 | case5 | case6 =>
    rename_i ih
    exact ih

theorem validateGlobValue_namesNoLine (g : Value) : NamesNoLine (validateGlobValue g) := by
  unfold validateGlobValue
  split
  · exact validateGlob_go_namesNoLine _ _
  · exact .bind .mapError_value fun n ↦ validateItems_namesNoLine g n _ 0

theorem plainPiece_namesNoLine (x : Value) : NamesNoLine (plainPiece x) := by
  unfold plainPiece
  split
  · exact .ok _
  · exact .ok _
  · exact .error rfl

theorem itemPieces_namesNoLine (g : Value) (n fuel i : Nat) :
    NamesNoLine (itemPieces g n fuel i) := by
  induction fuel generalizing i with
  | zero => exact .ok _
  | succ fuel ih =>
    unfold itemPieces
    split
    · exact .ok _
    · refine .bind .mapError_value fun c ↦ ?_
      split
      · exact .bind .mapError_value fun x ↦ .bind (plainPiece_namesNoLine x) fun p ↦
          .bind (ih _) fun ps ↦ .pure _
      · split
        · exact .bind (ih _) fun ps ↦ .pure _
        · split
          · exact .bind (ih _) fun ps ↦ .pure _
          · exact .bind (plainPiece_namesNoLine c) fun p ↦ .bind (ih _) fun ps ↦ .pure _

theorem itemTokens_namesNoLine (g : Value) : NamesNoLine (itemTokens g) := by
  unfold itemTokens
  refine .bind .mapError_value fun n ↦ .bind (itemPieces_namesNoLine g n _ 0) fun ps ↦ ?_
  split
  · exact .throw rfl
  · exact .pure _

theorem matchEntryValue_namesNoLine (name : String) (g : Value) :
    NamesNoLine (matchEntryValue name g) := by
  unfold matchEntryValue
  split
  · unfold matchEntryName
    dsimp only
    split
    · exact .error rfl
    · split
      · exact .ok _
      · exact .error (by rename_i f _; cases f <;> rfl)
  · exact .bind (itemTokens_namesNoLine g) fun ts ↦ .pure _

theorem Archive.EntryProblem.lineNumber_toError (p : EntryProblem) : p.toError.lineNumber = none := by
  cases p <;> rfl

/-- Seeking the next entry of an archive fails, if at all, without naming a line: an entry that
cannot be opened is named by the error, not a line of it. -/
theorem nextEntry_namesNoLine (bytes : ByteArray) (glob : Value) (es : List ZipEntry) :
    NamesNoLine (nextEntry bytes glob es) := by
  induction es with
  | nil => exact .ok _
  | cons e es ih =>
    unfold nextEntry
    split
    · exact .error rfl
    · exact ih
    · split
      · rename_i err herr
        exact .error (matchEntryValue_namesNoLine e.name glob err herr)
      · exact ih
      · split
        · exact .error (EntryProblem.lineNumber_toError _)
        · exact .ok _

/-! ## The driver loop -/

/-- The error a pipeline stops with when its source breaks before the next line: a read error
naming the next line, or an LZMA error, which names none. -/
def Pipeline.readStop (q : Pipeline) : ReadFault → Error
  | .lzma m => .lzma m
  | r => .line (.readFailed q.entry r) (some (q.count + 1)) ""

theorem feedLines_nil_eq (budget : Option Nat) (failure : Option ReadFault) (g : Progress) :
    feedLines budget failure g [] =
      if budget == some 0 then (g, .ok true)
      else (g, match failure with
        | none => .ok false
        | some f => .error (g.pipeline.readStop f)) := by
  rcases failure with _ | f
  · rfl
  · cases f <;> rfl

/-- `q.Fails feed i e`: with the first `i` lines of `feed` read, the pipeline `q` stops with `e`:
line `i + 1` fails with it, or there is no such line and the source broke. -/
def Pipeline.Fails (q : Pipeline) (feed : LineFeed) (i : Nat) (e : Error) : Prop :=
  (∃ l, feed.lines[i]? = some l ∧ (q.process l).2 = .error e) ∨
    (feed.lines.length = i ∧ ∃ f, feed.failure = some f ∧ q.readStop f = e)

theorem Pipeline.fails_cons {q : Pipeline} {l : String} {ls : List String}
    {failure : Option ReadFault} {i : Nat} {e : Error} :
    q.Fails ⟨l :: ls, failure⟩ (i + 1) e ↔ q.Fails ⟨ls, failure⟩ i e := by
  simp [Pipeline.Fails]

/-- `pl.StopsAt feed i e w`: driven over `feed`, the pipeline `pl` carries the first `i` lines
through, none failing, writing `w` for them, and then stops with `e`. -/
def Pipeline.StopsAt (pl : Pipeline) (feed : LineFeed) (i : Nat) (e : Error) (w : String) :
    Prop :=
  ∃ os q, pl.Runs (feed.lines.take i) os q ∧ w = String.join (os.map Outcome.writtenText) ∧
    q.Fails feed i e

/-- A budget not spent allows at least one more check. -/
theorem budget_pos {budget : Option Nat} (hb : ¬(budget == some 0) = true) :
    ∀ k, budget = some k → 0 < k := by
  rintro k rfl
  simp at hb
  omega

/-- A driver loop that stops with an error has carried some first lines through the pipeline,
within its budget, and then failed: the next line failed, or the source broke after the last
one. It has written the text of the lines carried through. -/
theorem feedLines_eq_error {budget : Option Nat} {failure : Option ReadFault} {g g' : Progress}
    {ls : List String} {e : Error} (h : feedLines budget failure g ls = (g', .error e)) :
    ∃ i os q, (∀ k, budget = some k → i < k) ∧ g.pipeline.Runs (ls.take i) os q ∧
      g'.written = g.written ++ String.join (os.map Outcome.writtenText) ∧
      q.Fails ⟨ls, failure⟩ i e := by
  induction ls generalizing budget g with
  | nil =>
    rw [feedLines_nil_eq] at h
    split at h
    · cases h
    · rename_i hb
      rcases failure with _ | f
      · cases h
      · simp only [Prod.mk.injEq, Except.error.injEq] at h
        obtain ⟨rfl, rfl⟩ := h
        exact ⟨0, [], _, budget_pos hb, .nil _, by simp, .inr ⟨rfl, f, rfl, rfl⟩⟩
  | cons l ls ih =>
    rw [feedLines_cons] at h
    split at h
    · cases h
    · rename_i hb
      have hb' := budget_pos hb
      cases ho : (g.pipeline.process l).2 with
      | error e' =>
        simp only [ho, Prod.mk.injEq, Except.error.injEq] at h
        obtain ⟨rfl, rfl⟩ := h
        exact ⟨0, [], g.pipeline, hb', .nil _, by simp, .inl ⟨l, rfl, ho⟩⟩
      | ok o =>
        simp only [ho] at h
        obtain ⟨i, os, q, hbi, hrun, hw, hf⟩ := ih h
        refine ⟨i + 1, o :: os, q, fun k hk ↦ ?_, .cons ho hrun, ?_, Pipeline.fails_cons.mpr hf⟩
        · have := hbi (k - 1) (by simp [hk])
          have := hb' k hk
          omega
        · rw [hw]
          simp [Progress.note, Outcome.writtenText, String.join_cons, String.append_assoc]

/-- The driver loop follows a run: over lines the pipeline carries through, within the budget, it
counts and writes their outcomes and goes on with the lines after them. -/
theorem feedLines_append {p q : Pipeline} {ls : List String} {os : List Outcome}
    (h : p.Runs ls os q) (budget : Option Nat) (failure : Option ReadFault) (g : Progress)
    (hg : g.pipeline = p) (hb : ∀ k, budget = some k → ls.length ≤ k) (rest : List String) :
    feedLines budget failure g (ls ++ rest) =
      feedLines (budget.map (· - ls.length)) failure
        ⟨q, os.foldl Tally.count g.tally, g.written ++ String.join (os.map Outcome.writtenText)⟩
        rest := by
  induction h generalizing budget g with
  | nil =>
    subst hg
    simp
  | @cons p q' l ls o os ho _ ih =>
    subst hg
    have hb0 : (budget == some 0) = false := by
      cases budget with
      | none => rfl
      | some k =>
        have := hb k rfl
        simp at this ⊢
        omega
    rw [List.cons_append, feedLines_cons, if_neg (by simp [hb0]), ho]
    dsimp only
    rw [ih (budget.map (· - 1)) _ rfl fun k hk ↦ ?_]
    · congr 1
      · cases budget <;> simp [Nat.sub_sub, Nat.add_comm]
      · simp [Progress.note, Outcome.writtenText, String.append_assoc]
    · obtain ⟨k', rfl, rfl⟩ := Option.map_eq_some_iff.mp hk
      have := hb k' rfl
      simp at this
      omega

/-- Over lines the pipeline carries through, with no budget and a source that does not break,
the loop returns uncancelled, having counted and written their outcomes. -/
theorem feedLines_of_runs {p q : Pipeline} {ls : List String} {os : List Outcome}
    (h : p.Runs ls os q) (t : Tally) (w : String) :
    feedLines none none { pipeline := p, tally := t, written := w } ls =
      (⟨q, os.foldl Tally.count t, w ++ String.join (os.map Outcome.writtenText)⟩, .ok false) := by
  have := feedLines_append h none none { pipeline := p, tally := t, written := w } rfl
    (by simp) []
  rw [List.append_nil] at this
  rw [this]
  rfl

/-- A driver loop over a feed of which the pipeline carries the first `i` lines through, within
the budget, and then fails, stops with that failure, having written the text of those lines. -/
theorem feedLines_of_fails {budget : Option Nat} {feed : LineFeed} {g : Progress} {i : Nat}
    {os : List Outcome} {q : Pipeline} {e : Error}
    (hb : ∀ k, budget = some k → i < k) (hrun : g.pipeline.Runs (feed.lines.take i) os q)
    (hf : q.Fails feed i e) :
    ∃ g', feedLines budget feed.failure g feed.lines = (g', .error e) ∧
      g'.written = g.written ++ String.join (os.map Outcome.writtenText) := by
  have hi : i ≤ feed.lines.length := by
    rcases hf with ⟨l, hl, -⟩ | ⟨hl, -⟩
    · exact (List.getElem?_eq_some_iff.mp hl).1.le
    · exact hl.ge
  have hlen : (feed.lines.take i).length = i := by simpa using hi
  have happ := feedLines_append hrun budget feed.failure g rfl
    (fun k hk ↦ by rw [hlen]; exact (hb k hk).le) (feed.lines.drop i)
  rw [List.take_append_drop, hlen] at happ
  rw [happ]
  have hb0 : (budget.map (· - i) == some 0) = false := by
    cases budget with
    | none => rfl
    | some k =>
      have := hb k rfl
      simp
      omega
  rcases hf with ⟨l, hl, he⟩ | ⟨hl, f, hfail, rfl⟩
  · obtain ⟨hi', rfl⟩ := List.getElem?_eq_some_iff.mp hl
    rw [List.drop_eq_getElem_cons hi', feedLines_cons, if_neg (by simp [hb0]), he]
    exact ⟨_, rfl, rfl⟩
  · rw [List.drop_eq_nil_of_le hl.le, feedLines_nil_eq, if_neg (by simp [hb0]), hfail]
    exact ⟨_, rfl, rfl⟩

/-- **A parse of a feed stops at its first failure.** A prepared parse of a feed ends with an
error exactly when, within its budget, the pipeline carries some first lines through and then
stops; what it wrote is the text of those lines. -/
theorem Parser.runFeed_eq_error_iff {pl : Pipeline} {feed : LineFeed} {source : String}
    {budget : Option Nat} {w : String} {e : Error} :
    Parser.runFeed pl feed source budget = ⟨w, .error e⟩ ↔
      ∃ i, (∀ k, budget = some k → i < k) ∧ pl.StopsAt feed i e w := by
  unfold Parser.runFeed
  constructor
  · intro h
    generalize hf : feedLines budget feed.failure { pipeline := pl } feed.lines = res at h
    obtain ⟨g, res⟩ := res
    cases res with
    | ok b => cases h
    | error e' =>
      simp only [Run.mk.injEq, Except.error.injEq] at h
      obtain ⟨rfl, rfl⟩ := h
      obtain ⟨i, os, q, hb, hrun, hw, hfail⟩ := feedLines_eq_error hf
      exact ⟨i, hb, os, q, hrun, by simpa using hw, hfail⟩
  · rintro ⟨i, hb, os, q, hrun, rfl, hfail⟩
    obtain ⟨g', hf, hw⟩ := feedLines_of_fails (g := { pipeline := pl }) hb hrun hfail
    rw [hf]
    simp [hw]

/-! ## The line a stop names -/

namespace Pipeline

theorem Runs.count_eq {p q : Pipeline} {ls : List String} {os : List Outcome}
    (h : p.Runs ls os q) : q.count = p.count + ls.length := by
  induction h with
  | nil => rfl
  | @cons p q l ls o os _ _ ih =>
    rw [ih, count_process, List.length_cons]
    omega

end Pipeline

theorem Error.eq_line_of_lineNumber {e : Error} {n : Int} (h : e.lineNumber = some n) :
    ∃ f s, e = .line f (some n) s := by
  unfold Error.lineNumber at h
  split at h
  · cases h
    exact ⟨_, _, rfl⟩
  · cases h

variable {pl : Pipeline} {feed : LineFeed} {i : Nat} {e : Error} {w : String}

/-- A stop names, if any line, the one after those carried through, numbered on from the count
the pipeline started at. -/
theorem Pipeline.StopsAt.lineNumber (h : pl.StopsAt feed i e w) {n : Int}
    (hn : e.lineNumber = some n) : n = ((pl.count + i + 1 : Nat) : Int) := by
  obtain ⟨os, q, hrun, -, hfail⟩ := h
  have hcount := hrun.count_eq
  rcases hfail with ⟨l, hl, he⟩ | ⟨hl, f, -, rfl⟩
  · have hi : i < feed.lines.length := (List.getElem?_eq_some_iff.mp hl).1
    obtain ⟨f, s, rfl⟩ := Error.eq_line_of_lineNumber hn
    have hline := (process_contract q l).error_line he
    simp at hline
    rw [List.length_take, Nat.min_eq_left hi.le] at hcount
    omega
  · rw [List.length_take, ← hl, Nat.min_self] at hcount
    unfold Pipeline.readStop at hn
    split at hn
    · cases hn
    · simp only [Error.lineNumber, Option.some.injEq] at hn
      rw [← hn, hcount, hl]
      push_cast
      rfl

/-- What a stopped parse wrote is what the pipeline writes for the lines before the stop. -/
theorem Pipeline.StopsAt.writes (h : pl.StopsAt feed i e w) : pl.Writes (feed.lines.take i) w := by
  obtain ⟨os, q, hrun, rfl, -⟩ := h
  exact ⟨os, hrun.forall₂_contract, rfl⟩

/-- A fresh pipeline's stop names, if any line, line `i + 1`. -/
theorem Pipeline.StopsAt.lineNumber_eq (h : pl.StopsAt feed i e w) (hpl : pl.count = 0)
    (hne : e.lineNumber ≠ none) : e.lineNumber = some ((i : Int) + 1) := by
  obtain ⟨n, hn⟩ := Option.ne_none_iff_exists'.mp hne
  have := h.lineNumber hn
  rw [hn, this, hpl]
  push_cast
  ring_nf

/-- A parse of a feed by a fresh pipeline stops with an error naming a line exactly when it stops
after carrying `i` lines through; the error names line `i + 1`. -/
theorem Parser.runFeed_line_error_iff (hpl : pl.count = 0) {source : String}
    {budget : Option Nat} :
    (Parser.runFeed pl feed source budget = ⟨w, .error e⟩ ∧ e.lineNumber ≠ none) ↔
      ∃ i, (∀ k, budget = some k → i < k) ∧ pl.StopsAt feed i e w ∧
        e.lineNumber = some ((i : Int) + 1) := by
  rw [Parser.runFeed_eq_error_iff]
  constructor
  · rintro ⟨⟨i, hb, hs⟩, hn⟩
    exact ⟨i, hb, hs, hs.lineNumber_eq hpl hn⟩
  · rintro ⟨i, hb, hs, hn⟩
    exact ⟨⟨i, hb, hs⟩, by simp [hn]⟩

/-! ## The loop over an archive's entries -/

/-- `ReadsWhole bytes glob p es ets q rest`: seeking from the entries `es`, the loop over an
archive's entries finds the entries of `ets` one after the other and reads each whole, as its
text, no line failing; the pipeline goes from `p` to `q`, and `rest` are the entries left to
seek. -/
inductive ReadsWhole (bytes : ByteArray) (glob : Value) :
    Pipeline → List ZipEntry → List (ZipEntry × String) → Pipeline → List ZipEntry → Prop
  | nil (p : Pipeline) (es : List ZipEntry) : ReadsWhole bytes glob p es [] p es
  | cons {p p' q : Pipeline} {es rest rest' : List ZipEntry} {e : ZipEntry} {start : Nat}
      {text : String} {os : List Outcome} {ets : List (ZipEntry × String)} :
      nextEntry bytes glob es = .ok (some (e, start, rest)) →
      (entryFeed bytes e start).lines = LineFeed.ofText text →
      (p.startEntry (some e.name)).Runs (textLines text) os p' →
      ReadsWhole bytes glob p' rest ets q rest' →
      ReadsWhole bytes glob p es ((e, text) :: ets) q rest'

/-- `q.StopsInNext bytes glob rest i e w`: the next entry sought from `rest` opens, and its lines,
read by `q` from a fresh count, stop with `e` after `i` of them, writing `w`. -/
def Pipeline.StopsInNext (q : Pipeline) (bytes : ByteArray) (glob : Value)
    (rest : List ZipEntry) (i : Nat) (e : Error) (w : String) : Prop :=
  ∃ ec start rest', nextEntry bytes glob rest = .ok (some (ec, start, rest')) ∧
    (q.startEntry (some ec.name)).StopsAt (entryFeed bytes ec start).lines i e w

/-- The text of the session of reading entries whole: each entry's lines' outputs. -/
theorem Pipeline.session_entryCalls_cons {p p' : Pipeline} {e : ZipEntry} {text : String}
    {os : List Outcome} (hrun : (p.startEntry (some e.name)).Runs (textLines text) os p')
    (ets : List (ZipEntry × String)) :
    String.join ((p.session (entryCalls ((e, text) :: ets))).2.map answerText) =
      String.join (os.map Outcome.writtenText) ++
        String.join ((p'.session (entryCalls ets)).2.map answerText) := by
  have hA : p.session (.entry (some e.name) :: (textLines text).map Pipeline.Call.line) =
      (p', none :: os.map fun o ↦ some (.ok o)) := by
    simp only [Pipeline.session, Pipeline.call, hrun.session_lines]
  rw [entryCalls_cons, Pipeline.session_append, hA]
  simp [answerText, Function.comp_def]

/-- With `n` entries read whole, a budget lets the archive parse start and the loop read them
exactly when it allows more than `n` entries. -/
theorem budgetLeft_map_iff {budget : Option Nat} {n : Nat} :
    (budgetLeft budget = true ∧ ∀ k, budget.map (· - 1) = some k → n ≤ k) ↔
      ∀ k, budget = some k → n < k := by
  cases budget with
  | none => simp [budgetLeft]
  | some k =>
    simp [budgetLeft]
    omega

variable {bytes : ByteArray} {glob : Value}

/-- The loop over the entries follows what it reads: after entries read whole it goes on from
where they leave it, and when the lines of the next entry stop, it stops with their error, having
written the text of every entry read before and of the lines carried through. -/
theorem readEntries_of_stop {pl q : Pipeline} {es rest : List ZipEntry}
    {ets : List (ZipEntry × String)} (h : ReadsWhole bytes glob pl es ets q rest)
    {fuel : Nat} {budget : Option Nat} {t : Tally} {w w₁ : String}
    (hfuel : es.length < fuel) (hb : ∀ k, budget = some k → ets.length ≤ k)
    (hs : q.StopsInNext bytes glob rest i e w₁) :
    readEntries bytes glob fuel budget pl t w es =
      (w ++ String.join ((pl.session (entryCalls ets)).2.map answerText) ++ w₁, .error e) := by
  induction h generalizing fuel budget t w with
  | nil p es =>
    obtain ⟨ec, start, rest', hn, os, q', hrun, rfl, hfail⟩ := hs
    obtain ⟨fuel, rfl⟩ : ∃ f, fuel = f + 1 := ⟨fuel - 1, by omega⟩
    have hnone : ∀ k, (none : Option Nat) = some k → i < k := fun _ h ↦ nomatch h
    obtain ⟨g', hf, hw⟩ :=
      feedLines_of_fails (g := { pipeline := p.startEntry (some ec.name) }) hnone hrun hfail
    rw [readEntries, hn]
    dsimp only
    rw [hf]
    simp [hw, entryCalls, Pipeline.session]
  | @cons p p' q es rest₁ rest e' start text os ets hn htext hrun _ ih =>
    obtain ⟨fuel, rfl⟩ : ∃ f, fuel = f + 1 := ⟨fuel - 1, by omega⟩
    have hlen := (nextEntry_some hn).2.2
    have hf : feedLines none (LineFeed.ofText text).failure
        { pipeline := p.startEntry (some e'.name) } (LineFeed.ofText text).lines =
        (⟨p', os.foldl Tally.count {}, "" ++ String.join (os.map Outcome.writtenText)⟩, .ok false) :=
      feedLines_of_runs hrun {} ""
    obtain ⟨hleft, hb'⟩ := budgetLeft_map_iff.mpr hb
    rw [readEntries, hn]
    dsimp only
    rw [htext, hf]
    dsimp only
    rw [if_pos hleft, ih (by omega) hb' hs, Pipeline.session_entryCalls_cons hrun]
    simp [String.append_assoc]

/-- A loop over the entries that stops at a line has read some entries whole, within its budget,
and stopped in the lines of the next; it wrote the text of those entries and of the lines carried
through. -/
theorem readEntries_eq_line_error {fuel : Nat} {budget : Option Nat} {pl : Pipeline} {t : Tally}
    {w : String} {es : List ZipEntry} {w' : String}
    (h : readEntries bytes glob fuel budget pl t w es = (w', .error e))
    (hne : e.lineNumber ≠ none) :
    ∃ ets q rest i w₁, ReadsWhole bytes glob pl es ets q rest ∧
      (∀ k, budget = some k → ets.length ≤ k) ∧ q.StopsInNext bytes glob rest i e w₁ ∧
      w' = w ++ String.join ((pl.session (entryCalls ets)).2.map answerText) ++ w₁ := by
  induction fuel generalizing budget pl t w es with
  | zero => cases h
  | succ fuel ih =>
    unfold readEntries at h
    cases hn : nextEntry bytes glob es with
    | error err =>
      simp only [hn, Prod.mk.injEq, Except.error.injEq] at h
      obtain ⟨-, rfl⟩ := h
      exact absurd (nextEntry_namesNoLine bytes glob es _ hn) hne
    | ok found =>
      cases found with
      | none => simp [hn] at h
      | some x =>
        obtain ⟨ec, start, rest⟩ := x
        simp only [hn] at h
        generalize hf : feedLines none (entryFeed bytes ec start).lines.failure
          { pipeline := pl.startEntry (some ec.name) } (entryFeed bytes ec start).lines.lines = res at h
        obtain ⟨g, res⟩ := res
        cases res with
        | error err =>
          simp only [Prod.mk.injEq, Except.error.injEq] at h
          obtain ⟨rfl, rfl⟩ := h
          obtain ⟨i, os, q, -, hrun, hw, hfail⟩ := feedLines_eq_error hf
          exact ⟨[], pl, es, i, g.written, .nil _ _, by simp,
            ⟨ec, start, rest, hn, os, q, hrun, by simpa using hw, hfail⟩,
            by simp [entryCalls, Pipeline.session]⟩
        | ok b =>
          obtain ⟨os, hrun, -, hwritten, hall, hnone⟩ := feedLines_eq_ok hf
          obtain ⟨rfl, hwhole⟩ := hnone rfl
          obtain ⟨text, htext⟩ := (entryFeed bytes ec start).lines_of_whole hwhole
          rw [hall rfl, List.take_length, htext] at hrun
          change (pl.startEntry (some ec.name)).Runs (textLines text) os g.pipeline at hrun
          dsimp only at h
          split at h
          · rename_i hleft
            obtain ⟨ets, q, rest', i, w₁, hreads, hb, hs, hw'⟩ := ih h
            refine ⟨(ec, text) :: ets, q, rest', i, w₁, .cons hn htext hrun hreads,
              budgetLeft_map_iff.mp ⟨hleft, hb⟩, hs, ?_⟩
            rw [hw', Pipeline.session_entryCalls_cons hrun, hwritten]
            simp [String.append_assoc]
          · cases h

theorem Pipeline.StopsInNext.lineNumber_eq {q : Pipeline} {rest : List ZipEntry} {w : String}
    (h : q.StopsInNext bytes glob rest i e w) (hne : e.lineNumber ≠ none) :
    e.lineNumber = some ((i : Int) + 1) := by
  obtain ⟨ec, start, rest', -, hs⟩ := h
  exact hs.lineNumber_eq (count_startEntry _ _) hne

/-- **The loop over an archive's entries stops at its first failing line.** It stops with an
error naming a line exactly when it has read some entries whole, within its budget, and the lines
of the next entry stop; the error names a line of that entry, numbered from one, and what was
written is the text of the entries before and of the lines carried through. -/
theorem readEntries_line_error_iff {fuel : Nat} {budget : Option Nat} {pl : Pipeline} {t : Tally}
    {w : String} {es : List ZipEntry} {w' : String} (hfuel : es.length < fuel) :
    (readEntries bytes glob fuel budget pl t w es = (w', .error e) ∧ e.lineNumber ≠ none) ↔
      ∃ ets q rest i w₁, ReadsWhole bytes glob pl es ets q rest ∧
        (∀ k, budget = some k → ets.length ≤ k) ∧ q.StopsInNext bytes glob rest i e w₁ ∧
        w' = w ++ String.join ((pl.session (entryCalls ets)).2.map answerText) ++ w₁ ∧
        e.lineNumber = some ((i : Int) + 1) := by
  constructor
  · rintro ⟨h, hne⟩
    obtain ⟨ets, q, rest, i, w₁, hreads, hb, hs, rfl⟩ := readEntries_eq_line_error h hne
    exact ⟨ets, q, rest, i, w₁, hreads, hb, hs, rfl, hs.lineNumber_eq hne⟩
  · rintro ⟨ets, q, rest, i, w₁, hreads, hb, hs, rfl, hn⟩
    exact ⟨readEntries_of_stop hreads hfuel hb hs, by simp [hn]⟩

/-! ## The entry points -/

/-- A parse refused before any line is read, with an error naming no line, does not stop at a
line. -/
theorem not_line_stop {e' e : Error} {w : String} (h : e'.lineNumber = none) :
    ¬((⟨"", .error e'⟩ : Run) = ⟨w, .error e⟩ ∧ e.lineNumber ≠ none) := by
  rintro ⟨he, hne⟩
  cases he
  exact hne h

namespace Parser

variable {p : Parser} {t : FileTree} {path : String}

/-- A parse of a feed stops at a line exactly when its pipeline is prepared and, within the
budget, stops after `i` lines; the error names line `i + 1`. -/
theorem parseFeed_line_error_iff {source : String} {budget : Option Nat} :
    (p.parseFeed feed source budget = ⟨w, .error e⟩ ∧ e.lineNumber ≠ none) ↔
      ∃ pl i, p.prepare = .ok pl ∧ (∀ k, budget = some k → i < k) ∧ pl.StopsAt feed i e w ∧
        e.lineNumber = some ((i : Int) + 1) := by
  unfold parseFeed
  cases hp : p.prepare with
  | error e' => exact iff_of_false (not_line_stop (p.prepare_namesNoLine _ hp)) (by simp)
  | ok pl =>
    rw [runFeed_line_error_iff (prepare_fresh hp).1]
    constructor
    · rintro ⟨i, h⟩
      exact ⟨pl, i, rfl, h⟩
    · rintro ⟨pl', i, hpl, h⟩
      cases hpl
      exact ⟨i, h⟩

/-- A parse of a file stops at a line exactly when its pipeline is prepared, the file is found,
and the lines read from it, plain or gzip, stop after `i` of them; the error names line
`i + 1`. -/
theorem parseFile_line_error_iff :
    (p.parseFile t path = ⟨w, .error e⟩ ∧ e.lineNumber ≠ none) ↔
      ∃ pl bytes i, p.prepare = .ok pl ∧ t.checkPath path = .ok bytes ∧
        pl.StopsAt (if hasGzipSuffix (baseName path) || startsWithGzipSignature bytes then
          readGzip bytes else plainFeed bytes).lines i e w ∧
        e.lineNumber = some ((i : Int) + 1) := by
  unfold parseFile
  cases hp : p.prepare with
  | error e' => exact iff_of_false (not_line_stop (p.prepare_namesNoLine _ hp)) (by simp)
  | ok pl =>
    cases hc : t.checkPath path with
    | error e' => exact iff_of_false (not_line_stop (t.checkPath_namesNoLine path _ hc)) (by simp)
    | ok bytes =>
      dsimp only
      rw [runFeed_line_error_iff (prepare_fresh hp).1]
      constructor
      · rintro ⟨i, -, h⟩
        exact ⟨pl, bytes, i, rfl, rfl, h⟩
      · rintro ⟨pl', bytes', i, hpl, hb, h⟩
        cases hpl
        cases hb
        exact ⟨i, (fun _ hk ↦ nomatch hk), h⟩

/-- A parse of a gzip file stops at a line exactly when its pipeline is prepared, the file is
found and starts with the gzip signature, and the lines read from it stop after `i` of them; the
error names line `i + 1`. -/
theorem parseGzip_line_error_iff :
    (p.parseGzip t path = ⟨w, .error e⟩ ∧ e.lineNumber ≠ none) ↔
      ∃ pl bytes i, p.prepare = .ok pl ∧ t.checkPath path = .ok bytes ∧
        startsWithGzipSignature bytes = true ∧ pl.StopsAt (readGzip bytes).lines i e w ∧
        e.lineNumber = some ((i : Int) + 1) := by
  unfold parseGzip
  cases hp : p.prepare with
  | error e' => exact iff_of_false (not_line_stop (p.prepare_namesNoLine _ hp)) (by simp)
  | ok pl =>
    cases hc : t.checkPath path with
    | error e' => exact iff_of_false (not_line_stop (t.checkPath_namesNoLine path _ hc)) (by simp)
    | ok bytes =>
      dsimp only
      split
      · rename_i hs
        exact iff_of_false (not_line_stop rfl) (by simp_all)
      · rename_i hs
        rw [runFeed_line_error_iff (prepare_fresh hp).1]
        constructor
        · rintro ⟨i, -, h⟩
          exact ⟨pl, bytes, i, rfl, rfl, by simpa using hs, h⟩
        · rintro ⟨pl', bytes', i, hpl, hb, -, h⟩
          cases hpl
          cases hb
          exact ⟨i, (fun _ hk ↦ nomatch hk), h⟩

/-- An archive parse stops at a line exactly when its checks pass, its budget lets it start, and
the loop over the archive's entries stops at a line. -/
theorem parseZip_line_error_iff_loop {glob : Value} {budget : Option Nat} :
    (p.parseZip t path glob budget = ⟨w, .error e⟩ ∧ e.lineNumber ≠ none) ↔
      ∃ pl bytes entries, p.prepare = .ok pl ∧ validateGlobValue glob = .ok () ∧
        t.checkPath path = .ok bytes ∧ isZipArchive bytes = .ok true ∧
        readDirectory bytes = .ok entries ∧ budgetLeft budget = true ∧
        (readEntries bytes glob (entries.length + 1) (budget.map (· - 1)) pl {} "" entries =
          (w, .error e) ∧ e.lineNumber ≠ none) := by
  unfold parseZip
  dsimp only
  cases hp : p.prepare with
  | error e' => exact iff_of_false (not_line_stop (p.prepare_namesNoLine _ hp)) (by simp)
  | ok pl =>
    cases hv : validateGlobValue glob with
    | error e' =>
      exact iff_of_false (not_line_stop (validateGlobValue_namesNoLine glob _ hv)) (by simp)
    | ok u =>
      cases hc : t.checkPath path with
      | error e' =>
        exact iff_of_false (not_line_stop (t.checkPath_namesNoLine path _ hc)) (by simp)
      | ok bytes =>
        simp only [bind, Except.bind]
        cases hz : isZipArchive bytes with
        | error f => exact iff_of_false (not_line_stop rfl) (by simp [hz])
        | ok z =>
          cases z with
          | false => exact iff_of_false (not_line_stop rfl) (by simp [hz])
          | true =>
            simp only [pure, Except.pure]
            cases hb : budgetLeft budget with
            | false =>
              refine iff_of_false ?_ (by simp)
              rintro ⟨h, -⟩
              simp at h
            | true =>
              cases hd : readDirectory bytes with
              | error prob =>
                exact iff_of_false (not_line_stop prob.lineNumber_toError) (by simp [hd])
              | ok entries =>
                simp only [Bool.not_true, Bool.false_eq_true, ↓reduceIte]
                generalize hre : readEntries bytes glob (entries.length + 1) (budget.map (· - 1)) pl {}
                  "" entries = res
                obtain ⟨w', res⟩ := res
                cases res <;> simp [Except.map, hz, hd, hre]

/-- **An archive parse stops at its first failing line.** It stops with an error naming a line
exactly when its pipeline is prepared, the glob is valid, the file is a zip archive whose
directory is read, and, within the budget, the loop over its entries reads some whole and stops
in the lines of the next. The error names a line of that entry, numbered from one, and what was
written is the text of the entries before and of the lines carried through. -/
theorem parseZip_line_error_iff {glob : Value} {budget : Option Nat} :
    (p.parseZip t path glob budget = ⟨w, .error e⟩ ∧ e.lineNumber ≠ none) ↔
      ∃ pl bytes entries ets q rest i w₁, p.prepare = .ok pl ∧ validateGlobValue glob = .ok () ∧
        t.checkPath path = .ok bytes ∧ isZipArchive bytes = .ok true ∧
        readDirectory bytes = .ok entries ∧ ReadsWhole bytes glob pl entries ets q rest ∧
        (∀ k, budget = some k → ets.length < k) ∧ q.StopsInNext bytes glob rest i e w₁ ∧
        w = String.join ((pl.session (entryCalls ets)).2.map answerText) ++ w₁ ∧
        e.lineNumber = some ((i : Int) + 1) := by
  rw [parseZip_line_error_iff_loop]
  constructor
  · rintro ⟨pl, bytes, entries, hp, hv, hc, hz, hd, hb, hloop⟩
    obtain ⟨ets, q, rest, i, w₁, hreads, hbe, hs, hw, hn⟩ :=
      (readEntries_line_error_iff (by omega)).mp hloop
    exact ⟨pl, bytes, entries, ets, q, rest, i, w₁, hp, hv, hc, hz, hd, hreads,
      budgetLeft_map_iff.mp ⟨hb, hbe⟩, hs, by simpa using hw, hn⟩
  · rintro ⟨pl, bytes, entries, ets, q, rest, i, w₁, hp, hv, hc, hz, hd, hreads, hbe, hs, hw, hn⟩
    obtain ⟨hb, hbe⟩ := budgetLeft_map_iff.mpr hbe
    exact ⟨pl, bytes, entries, hp, hv, hc, hz, hd, hb,
      (readEntries_line_error_iff (by omega)).mpr ⟨ets, q, rest, i, w₁, hreads, hbe, hs,
        by simpa using hw, hn⟩⟩

/-- **A line error stops a parse where it arises.** On every entry point, a parse stops with an
error naming a line exactly when its preparation and checks pass and, within its budget, it
carries some first lines of the current source through (in an archive, of the current entry,
after the earlier entries read whole) and then the next line fails, or the source breaks there.
No tally is reported; the error names that line, numbered from one in its source; and what was
written is the text of everything carried through before it, the failing line adding nothing. -/
theorem line_error_stops (p : Parser) :
    (∀ feed source budget w e,
      (p.parseFeed feed source budget = ⟨w, .error e⟩ ∧ e.lineNumber ≠ none) ↔
        ∃ pl i, p.prepare = .ok pl ∧ (∀ k, budget = some k → i < k) ∧ pl.StopsAt feed i e w ∧
          e.lineNumber = some ((i : Int) + 1)) ∧
    (∀ t path w e, (p.parseFile t path = ⟨w, .error e⟩ ∧ e.lineNumber ≠ none) ↔
      ∃ pl bytes i, p.prepare = .ok pl ∧ t.checkPath path = .ok bytes ∧
        pl.StopsAt (if hasGzipSuffix (baseName path) || startsWithGzipSignature bytes then
          readGzip bytes else plainFeed bytes).lines i e w ∧
        e.lineNumber = some ((i : Int) + 1)) ∧
    (∀ t path w e, (p.parseGzip t path = ⟨w, .error e⟩ ∧ e.lineNumber ≠ none) ↔
      ∃ pl bytes i, p.prepare = .ok pl ∧ t.checkPath path = .ok bytes ∧
        startsWithGzipSignature bytes = true ∧ pl.StopsAt (readGzip bytes).lines i e w ∧
        e.lineNumber = some ((i : Int) + 1)) ∧
    (∀ t path glob budget w e,
      (p.parseZip t path glob budget = ⟨w, .error e⟩ ∧ e.lineNumber ≠ none) ↔
        ∃ pl bytes entries ets q rest i w₁, p.prepare = .ok pl ∧
          validateGlobValue glob = .ok () ∧ t.checkPath path = .ok bytes ∧
          isZipArchive bytes = .ok true ∧ readDirectory bytes = .ok entries ∧
          ReadsWhole bytes glob pl entries ets q rest ∧ (∀ k, budget = some k → ets.length < k) ∧
          q.StopsInNext bytes glob rest i e w₁ ∧
          w = String.join ((pl.session (entryCalls ets)).2.map answerText) ++ w₁ ∧
          e.lineNumber = some ((i : Int) + 1)) :=
  ⟨fun _ _ _ _ _ ↦ parseFeed_line_error_iff, fun _ _ _ _ ↦ parseFile_line_error_iff,
    fun _ _ _ _ ↦ parseGzip_line_error_iff, fun _ _ _ _ _ _ ↦ parseZip_line_error_iff⟩

end Parser

end AccessLog

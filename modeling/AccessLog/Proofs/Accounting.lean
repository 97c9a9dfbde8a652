import AccessLog.Parser
import AccessLog.Proofs.LineContract
import Mathlib.Data.List.Forall2
import Mathlib.Data.List.Induction

/-!
# Line accounting

Every line a parse reads ends in exactly one status, and the tally counts the lines by status.
This file proves that the tally of a whole parse of a text is determined line by line: the lines
are the pieces of the text between line feeds, numbered from one, and a line's status is what the
skip list, the decoder and the filters decide for its number and text (`Pipeline.verdict`). The
handler is never consulted for the count: when the parse returns, no handler failed.

## Runs

`Pipeline.Runs p lines os q` says that `p` carries `lines` through without an error, answering
with the outcomes `os`. The driver's loop is a run (`feedLines_eq_ok`), and a run is read line by
line through the contract of one line: `Runs.map_eq` turns any per-line fact of the contract
into an equation between the outcomes and the numbered lines, and the counts follow.

## Main statements

* `length_splitLines`: a text has one line per line feed, and one more when it does not end in
  one.
* `Pipeline.Runs.map_eq`: a run answers each numbered line as the contract says.
* `Pipeline.session_contract`: a session answers each of its lines as the contract says, read with
  the count and the entry its calls leave.
* `feedLines_eq_ok`: a driver loop that returns is a run, counted into the tally and written.
* `Pipeline.Runs.tally_eq`: what a run counts is the tally of its lines (`Pipeline.linesTally`).
* `Parser.parseText_eq_linesTally`: a parse of a text that returns has the tally of its lines.
* `Parser.parseText_accounting`: the tally of a parse of a text accounts for its physical lines
  (`Pipeline.TextAccounting`).
-/

namespace AccessLog

namespace Text

/-! ## Lines of a text -/

theorem length_splitOn (a : Char) (xs : List Char) :
    (xs.splitOn a).length = xs.count a + 1 := by
  induction xs with
  | nil => simp
  | cons x xs ih =>
    rw [List.splitOn_cons_eq_if_modifyHead]
    by_cases hx : x = a
    · simp [hx, ih]
    · simp [hx, ih]

/-- A list that ends with something other than the separator ends with a non-empty piece. -/
theorem getLast?_splitOn_append_ne {a b : Char} (hb : b ≠ a) (ys : List Char) :
    ((ys ++ [b]).splitOn a).getLast? ≠ some [] := by
  induction hn : ys.length using Nat.strongRecOn generalizing ys with
  | _ n ih =>
    by_cases ha : a ∈ ys
    · obtain ⟨pre, post, rfl⟩ := List.append_of_mem ha
      have hpost : post.length < n := by simp at hn; omega
      rw [List.append_assoc, List.cons_append, List.splitOn_append_cons_self, List.getLast?_append]
      obtain ⟨s, hs⟩ := Option.isSome_iff_exists.mp
        (List.getLast?_isSome.mpr (List.splitOn_ne_nil a (post ++ [b])))
      rw [hs, Option.some_or, ← hs]
      exact ih _ hpost post rfl
    · have hab : a ∉ ys ++ [b] := by simp [ha, Ne.symm hb]
      simp [List.splitOn_eq_singleton hab]

theorem getLast?_splitOn_eq_nil_iff (a : Char) (xs : List Char) :
    (xs.splitOn a).getLast? = some [] ↔ xs = [] ∨ xs.getLast? = some a := by
  induction xs using List.reverseRecOn with
  | nil => simp
  | append_singleton ys b _ =>
    by_cases hb : b = a
    · subst hb
      rw [List.splitOn_append_cons_self ys []]
      simp
    · simp [getLast?_splitOn_append_ne hb, hb]

/-- The number of lines of a text: one per line feed, and one more for a last line that no line
feed ends. -/
def lineCount (text : String) : Nat :=
  text.toList.count '\n' + if text.toList = [] ∨ text.toList.getLast? = some '\n' then 0 else 1

/-- The lines of a text are its first `lineCount` pieces between line feeds: only an empty piece
after a final line feed is left out. -/
theorem splitLines_eq_take (text : String) :
    splitLines text = ((text.toList.splitOn '\n').take (lineCount text)).map String.ofList := by
  have hlen := length_splitOn '\n' text.toList
  unfold splitLines lineCount
  by_cases hlast : (text.toList.splitOn '\n').getLast? = some []
  · have hend := (getLast?_splitOn_eq_nil_iff '\n' text.toList).mp hlast
    simp only [hlast, beq_self_eq_true, ↓reduceIte, hend, List.dropLast_eq_take, hlen,
      Nat.add_sub_cancel, Nat.add_zero]
  · have hend : ¬(text.toList = [] ∨ text.toList.getLast? = some '\n') :=
      fun h ↦ hlast ((getLast?_splitOn_eq_nil_iff '\n' text.toList).mpr h)
    have hne : ((text.toList.splitOn '\n').getLast? == some []) = false := by simpa using hlast
    simp only [hne, Bool.false_eq_true, ↓reduceIte, hend, ← hlen, List.take_length]

theorem length_splitLines (text : String) : (splitLines text).length = lineCount text := by
  rw [splitLines_eq_take, List.length_map, List.length_take, length_splitOn]
  unfold lineCount
  split <;> omega

/-- The physical lines of a text: its first `lineCount` pieces between line feeds, each without
one final carriage return. -/
def physicalLines (text : String) : List String :=
  ((text.toList.splitOn '\n').take (lineCount text)).map fun s ↦ dropReturn (String.ofList s)

end Text

open Text

/-- The lines a parse reads from a text are its physical lines. -/
theorem textLines_eq (text : String) : textLines text = physicalLines text := by
  rw [textLines, splitLines_eq_take, List.map_map]
  rfl

theorem length_physicalLines (text : String) : (physicalLines text).length = lineCount text := by
  rw [← textLines_eq, textLines, List.length_map, length_splitLines]

namespace Pipeline

/-! ## The verdict on a line -/

/-- The status line `c`, reading `line`, ends in when nothing fails on it, as the skip list, the
decoder and the filters decide it; `none` when the decoder or a filter fails on it. -/
def verdict (p : Pipeline) (c : Nat) (line : String) : Option Status :=
  if listedToSkip p.options.skipLines c then some .skipped
  else
    match p.decoder.decode line with
    | .error _ => none
    | .ok none => some .unmatched
    | .ok (some r) =>
      match Filter.allPass r (some (c : Int)) p.filters with
      | .error _ => none
      | .ok false => some .excluded
      | .ok true => some .matched

theorem verdict_eq_skipped_iff (p : Pipeline) (c : Nat) (line : String) :
    p.verdict c line = some .skipped ↔ listedToSkip p.options.skipLines c = true := by
  unfold verdict
  split
  · simp_all
  · simp only [*, Bool.false_eq_true, iff_false]
    split
    · simp
    · simp
    · split <;> simp

theorem verdict_eq_unmatched_iff (p : Pipeline) (c : Nat) (line : String) :
    p.verdict c line = some .unmatched ↔
      listedToSkip p.options.skipLines c = false ∧ p.decoder.decode line = .ok none := by
  unfold verdict
  split
  · simp_all
  · split
    · simp_all
    · simp_all
    · split <;> simp_all

theorem verdict_eq_excluded_iff (p : Pipeline) (c : Nat) (line : String) :
    p.verdict c line = some .excluded ↔
      listedToSkip p.options.skipLines c = false ∧ ∃ r, p.decoder.decode line = .ok (some r) ∧
        Filter.allPass r (some (c : Int)) p.filters = .ok false := by
  unfold verdict
  split
  · simp_all
  · split
    · simp_all
    · simp_all
    · split <;> simp_all

theorem verdict_eq_matched_iff (p : Pipeline) (c : Nat) (line : String) :
    p.verdict c line = some .matched ↔
      listedToSkip p.options.skipLines c = false ∧ ∃ r, p.decoder.decode line = .ok (some r) ∧
        Filter.allPass r (some (c : Int)) p.filters = .ok true := by
  unfold verdict
  split
  · simp_all
  · split
    · simp_all
    · simp_all
    · split <;> simp_all

section Contract

variable {p : Pipeline} {c : Nat} {entry : Option String} {first : Bool} {line : String}
  {o : Outcome}

/-- A line that is answered ends in the status its verdict names. -/
theorem LineContract.verdict_eq (h : LineContract p c entry first line (.ok o)) :
    p.verdict c line = some o.status := by
  cases hl : listedToSkip p.options.skipLines c with
  | true =>
    cases h.skip hl
    exact (verdict_eq_skipped_iff p c line).mpr hl
  | false =>
    cases hd : p.decoder.decode line with
    | error e => cases h.decode_error hl e hd
    | ok found =>
      cases found with
      | none =>
        cases h.refused hl hd
        exact (verdict_eq_unmatched_iff p c line).mpr ⟨hl, hd⟩
      | some rec =>
        cases hf : Filter.allPass rec (some (c : Int)) p.filters with
        | error e => cases h.filter_error hl rec e hd hf
        | ok pass =>
          cases pass with
          | false =>
            cases h.excluded hl rec hd hf
            exact (verdict_eq_excluded_iff p c line).mpr ⟨hl, rec, hd, hf⟩
          | true =>
            cases hs : p.shape rec c with
            | error e => cases h.shape_error hl rec e hd hf hs
            | ok rec' =>
              have hr := h.handed hl rec rec' hd hf hs
              revert hr
              cases p.options.handler.call rec'.names rec'.values c p.options.lineNumber first <;>
                intro hr <;> cases hr
              exact (verdict_eq_matched_iff p c line).mpr ⟨hl, rec, hd, hf⟩

/-- Only an unmatched line has an audit entry, and it names the line and the entry. -/
theorem LineContract.audit_eq (h : LineContract p c entry first line (.ok o)) :
    (if o.status = .unmatched then o.audit else none) =
      if p.verdict c line = some .unmatched then
        some { lineNumber := c, line := line, entry := entry }
      else none := by
  rw [h.verdict_eq]
  rcases h.cases with ho | ho | ho | ⟨s, ho⟩ | ⟨e, ho, -⟩ <;> cases ho <;> simp

end Contract

/-! ## Runs -/

/-- `p.Runs lines os q`: the pipeline `p` carries `lines` through in order, none of them failing,
answers them with the outcomes `os`, and ends as `q`. -/
inductive Runs : Pipeline → List String → List Outcome → Pipeline → Prop
  | nil (p : Pipeline) : Runs p [] [] p
  | cons {p q : Pipeline} {l : String} {ls : List String} {o : Outcome} {os : List Outcome} :
      (p.process l).2 = .ok o → Runs (p.process l).1 ls os q → Runs p (l :: ls) (o :: os) q

/-- A run answers each line, numbered on from the count it starts at, as the contract says, with
the first-record flag its history gives. -/
theorem Runs.forall₂_contract {p q : Pipeline} {ls : List String} {os : List Outcome}
    (h : p.Runs ls os q) :
    List.Forall₂ (fun x o ↦ ∃ first, LineContract p x.2 p.entry first x.1 (.ok o))
      (ls.zipIdx (p.count + 1)) os := by
  induction h with
  | nil => exact .nil
  | @cons p q l ls o os ho _ ih =>
    rw [List.zipIdx_cons]
    refine .cons ⟨p.firstRecord, ho ▸ process_contract p l⟩ ?_
    rw [← count_process p l]
    refine ih.imp fun x o ⟨first, hc⟩ ↦ ⟨first, ?_⟩
    rw [entry_process] at hc
    exact hc.of_parts (decoder_process p l).symm (options_process p l).symm
      (filters_process p l).symm

/-- The answers a session gives to its lines are those the contract allows, each line read with
the count and the entry that the calls before it leave. -/
theorem session_contract (p : Pipeline) (calls : List Call) :
    List.Forall₂ (fun x a ↦ ∃ first, LineContract p x.2.1 x.2.2 first x.1 a)
      (Call.numberedLines p.count p.entry calls) ((p.session calls).2.filterMap id) := by
  induction calls generalizing p with
  | nil => exact .nil
  | cons c cs ih =>
    cases c with
    | line l =>
      have hrest := ih (p.process l).1
      rw [count_process, entry_process] at hrest
      refine .cons ⟨_, process_contract p l⟩ (hrest.imp fun x a ⟨first, h⟩ ↦ ⟨first, ?_⟩)
      exact h.of_parts (decoder_process p l).symm (options_process p l).symm
        (filters_process p l).symm
    | entry e =>
      have hrest := ih (p.startEntry e)
      exact hrest.imp fun x a ⟨first, h⟩ ↦ ⟨first, h.of_parts rfl rfl rfl⟩

/-- Any fact `f o = g (l, c)` that the contract gives for an answered line holds of the whole
run. -/
theorem Runs.map_eq {p q : Pipeline} {ls : List String} {os : List Outcome} (h : p.Runs ls os q)
    {β : Type} (f : Outcome → β) (g : String × Nat → β)
    (hfg : ∀ c first l o, LineContract p c p.entry first l (.ok o) → f o = g (l, c)) :
    os.map f = (ls.zipIdx (p.count + 1)).map g := by
  have hc := h.forall₂_contract
  clear h
  generalize ls.zipIdx (p.count + 1) = xs at hc
  induction hc with
  | nil => rfl
  | @cons x o xs os hxo _ ih =>
    obtain ⟨first, hc⟩ := hxo
    rw [List.map_cons, List.map_cons, hfg _ _ _ _ hc, ih]

/-- The statuses of a run are the verdicts on its numbered lines. -/
theorem Runs.statuses {p q : Pipeline} {ls : List String} {os : List Outcome}
    (h : p.Runs ls os q) :
    os.map (fun o ↦ some o.status) = (ls.zipIdx (p.count + 1)).map fun x ↦ p.verdict x.2 x.1 :=
  h.map_eq _ _ fun _ _ _ _ hc ↦ hc.verdict_eq.symm

/-- The audit entries of a run are those of its numbered lines found unmatched. -/
theorem Runs.audits {p q : Pipeline} {ls : List String} {os : List Outcome}
    (h : p.Runs ls os q) :
    os.filterMap (fun o ↦ if o.status = .unmatched then o.audit else none) =
      (ls.zipIdx (p.count + 1)).filterMap fun x ↦
        if p.verdict x.2 x.1 = some .unmatched then
          some { lineNumber := x.2, line := x.1, entry := p.entry }
        else none := by
  have hm := congrArg (List.filterMap id)
    (h.map_eq (fun o ↦ if o.status = .unmatched then o.audit else none)
      (fun x ↦ if p.verdict x.2 x.1 = some .unmatched then
        some { lineNumber := x.2, line := x.1, entry := p.entry } else none)
      fun _ _ _ _ hc ↦ hc.audit_eq)
  simpa [List.filterMap_map] using hm

/-- The number of lines of a run that end in a status is the number of its numbered lines whose
verdict is that status. -/
theorem Runs.countP_status {p q : Pipeline} {ls : List String} {os : List Outcome}
    (h : p.Runs ls os q) (s : Status) :
    os.countP (·.status == s) =
      (ls.zipIdx (p.count + 1)).countP fun x ↦ p.verdict x.2 x.1 == some s := by
  have hc := congrArg (List.countP (· == some s)) h.statuses
  simpa [List.countP_map, Function.comp_def] using hc

theorem Runs.length_eq {p q : Pipeline} {ls : List String} {os : List Outcome}
    (h : p.Runs ls os q) : os.length = ls.length := by
  induction h with
  | nil => rfl
  | cons _ _ ih => simp [ih]

end Pipeline

/-! ## Tallies -/

/-- Counting outcomes one by one adds their number to the total, the number of each status to
its counter, and the audit entries of the unmatched ones to the audit trail. -/
theorem Tally.foldl_count (t : Tally) (os : List Outcome) :
    os.foldl Tally.count t =
      { t with total := t.total + os.length,
               matched := t.matched + os.countP (·.status == .matched),
               unmatched := t.unmatched + os.countP (·.status == .unmatched),
               excluded := t.excluded + os.countP (·.status == .excluded),
               skipped := t.skipped + os.countP (·.status == .skipped),
               audits := t.audits ++
                 os.filterMap fun o ↦ if o.status = .unmatched then o.audit else none } := by
  induction os generalizing t with
  | nil => simp
  | cons o os ih =>
    rw [List.foldl_cons, ih]
    unfold Tally.count
    cases hs : o.status <;> simp [hs, List.filterMap_cons, Int.add_assoc, Int.add_comm 1]
    cases o.audit <;> rfl

theorem Tally.foldl_count_consistent (t : Tally) (os : List Outcome) (h : t.consistent = true) :
    (os.foldl Tally.count t).consistent = true := by
  induction os generalizing t with
  | nil => exact h
  | cons o os ih => exact ih _ (Aggregator.record_consistent t o h)

/-- The tally of `lines` as the pipeline `p` judges them, numbered on from its count: a line for
each, counted by its verdict, and the audit entries of the unmatched ones. -/
def Pipeline.linesTally (p : Pipeline) (lines : List String) : Tally :=
  let xs := lines.zipIdx (p.count + 1)
  { total := lines.length
    matched := xs.countP fun x ↦ p.verdict x.2 x.1 == some .matched
    unmatched := xs.countP fun x ↦ p.verdict x.2 x.1 == some .unmatched
    excluded := xs.countP fun x ↦ p.verdict x.2 x.1 == some .excluded
    skipped := xs.countP fun x ↦ p.verdict x.2 x.1 == some .skipped
    audits := xs.filterMap fun x ↦
      if p.verdict x.2 x.1 = some .unmatched then
        some { lineNumber := x.2, line := x.1, entry := p.entry }
      else none }

/-- What a run counts, from an empty tally, is the tally of its lines. -/
theorem Pipeline.Runs.tally_eq {p q : Pipeline} {ls : List String} {os : List Outcome}
    (h : p.Runs ls os q) : os.foldl Tally.count {} = p.linesTally ls := by
  rw [Tally.foldl_count, Pipeline.linesTally, ← h.length_eq, ← h.countP_status,
    ← h.countP_status, ← h.countP_status, ← h.countP_status, ← h.audits]
  simp

/-- The tally of a run is consistent. -/
theorem Pipeline.Runs.linesTally_consistent {p q : Pipeline} {ls : List String}
    {os : List Outcome} (h : p.Runs ls os q) : (p.linesTally ls).consistent = true := by
  rw [← h.tally_eq]
  exact Tally.foldl_count_consistent {} os rfl

/-! ## The driver -/

/-- The text written for an outcome: its output and a line feed, or nothing. -/
def Outcome.writtenText (o : Outcome) : String := (o.output.map (· ++ "\n")).getD ""

theorem feedLines_cons (budget : Option Nat) (failure : Option Archive.ReadFault) (g : Progress)
    (l : String) (ls : List String) :
    feedLines budget failure g (l :: ls) =
      if budget == some 0 then (g, .ok true)
      else
        match (g.pipeline.process l).2 with
        | .error e => ({ g with pipeline := (g.pipeline.process l).1 }, .error e)
        | .ok o => feedLines (budget.map (· - 1)) failure (g.note (g.pipeline.process l).1 o) ls :=
  rfl

/-- A driver loop that returns has carried some first lines through the pipeline: they are a
run, each outcome is counted in the tally and its text written; unless the loop was cancelled,
which only a budget can do, they are all the lines. Without a budget the loop also read a source
that did not break. -/
theorem feedLines_eq_ok {budget : Option Nat} {failure : Option Archive.ReadFault} {g g' : Progress}
    {ls : List String} {b : Bool} (h : feedLines budget failure g ls = (g', .ok b)) :
    ∃ os, g.pipeline.Runs (ls.take os.length) os g'.pipeline ∧
      g'.tally = os.foldl Tally.count g.tally ∧
      g'.written = g.written ++ String.join (os.map Outcome.writtenText) ∧
      (b = false → os.length = ls.length) ∧ (budget = none → b = false ∧ failure = none) := by
  induction ls generalizing budget g with
  | nil =>
    by_cases hb : budget = some 0
    · simp only [feedLines, hb, beq_self_eq_true, ↓reduceIte, Prod.mk.injEq,
        Except.ok.injEq] at h
      obtain ⟨rfl, rfl⟩ := h
      exact ⟨[], .nil _, rfl, by simp, by simp, by simp [hb]⟩
    have hb' : (budget == some 0) = false := by simpa using hb
    simp only [feedLines, hb', Bool.false_eq_true, ↓reduceIte] at h
    cases failure with
    | none =>
      simp only [Prod.mk.injEq, Except.ok.injEq] at h
      obtain ⟨rfl, rfl⟩ := h
      exact ⟨[], .nil _, rfl, by simp, fun _ ↦ rfl, fun _ ↦ ⟨rfl, rfl⟩⟩
    | some f => cases f <;> cases h
  | cons l ls ih =>
    rw [feedLines_cons] at h
    by_cases hb : budget = some 0
    · simp only [hb, beq_self_eq_true, ↓reduceIte, Prod.mk.injEq, Except.ok.injEq] at h
      obtain ⟨rfl, rfl⟩ := h
      exact ⟨[], .nil _, rfl, by simp, by simp, by simp [hb]⟩
    have hb' : (budget == some 0) = false := by simpa using hb
    simp only [hb', Bool.false_eq_true, ↓reduceIte] at h
    cases ho : (g.pipeline.process l).2 with
    | error e => simp [ho] at h
    | ok o =>
      rw [ho] at h
      obtain ⟨os, hrun, htally, hwritten, hlen, hnone⟩ := ih h
      refine ⟨o :: os, .cons ho hrun, htally, ?_, fun hb ↦ by simp [hlen hb], fun hb ↦ ?_⟩
      · rw [hwritten]
        simp [Progress.note, Outcome.writtenText, String.join_cons, String.append_assoc]
      · exact hnone (by simp [hb])

/-! ## Parsing a text -/

/-- `pl.TextAccounting text r`: the tally `r` counts the physical lines of `text`, numbered from
one, as `pl` judges them. A line is skipped exactly when its number is listed, an audit entry
without archive entry is kept, in order, for each line the decoder refuses, and the other lines
are excluded or matched as the filters decide; the counters add up, and the tally is neither
cancelled nor named. -/
structure Pipeline.TextAccounting (pl : Pipeline) (text : String) (r : Tally) : Prop where
  total : r.total = lineCount text
  consistent : r.consistent = true
  skipped : r.skipped = (List.range' 1 (lineCount text)).countP (listedToSkip pl.options.skipLines)
  audits : r.audits = ((physicalLines text).zipIdx 1).filterMap fun x ↦
    if pl.verdict x.2 x.1 = some .unmatched then some { lineNumber := x.2, line := x.1 } else none
  unmatched : r.unmatched = r.audits.length
  excluded : r.excluded =
    ((physicalLines text).zipIdx 1).countP fun x ↦ pl.verdict x.2 x.1 == some .excluded
  matched : r.matched =
    ((physicalLines text).zipIdx 1).countP fun x ↦ pl.verdict x.2 x.1 == some .matched
  not_cancelled : r.cancelled = false
  unnamed : r.source = ""

/-- The tally of the physical lines of a text, read by a fresh pipeline outside any archive entry
and without a line failing, accounts for the text. -/
theorem Pipeline.textAccounting_linesTally {pl q : Pipeline} {text : String} {os : List Outcome}
    (hrun : pl.Runs (physicalLines text) os q) (hc : pl.count = 0) (he : pl.entry = none) :
    pl.TextAccounting text (pl.linesTally (physicalLines text)) where
  total := by simp [Pipeline.linesTally, length_physicalLines]
  consistent := hrun.linesTally_consistent
  skipped := by
    simp only [Pipeline.linesTally, hc, Nat.zero_add]
    rw [← length_physicalLines, ← List.zipIdx_map_snd 1 (physicalLines text), List.countP_map]
    congr 2
    funext x
    rw [Function.comp_apply, Bool.eq_iff_iff, beq_iff_eq, Pipeline.verdict_eq_skipped_iff]
  audits := by simp only [Pipeline.linesTally, hc, he, Nat.zero_add]
  unmatched := by
    simp only [Pipeline.linesTally, List.length_filterMap_eq_countP]
    simp [apply_ite Option.isSome, Bool.beq_eq_decide_eq]
  excluded := by simp only [Pipeline.linesTally, hc, Nat.zero_add]
  matched := by simp only [Pipeline.linesTally, hc, Nat.zero_add]
  not_cancelled := rfl
  unnamed := rfl

/-- A created pipeline is fresh: no line read, no entry, no record written. -/
theorem Pipeline.create_fresh {d : Decoder} {o : Options} {pl : Pipeline}
    (h : Pipeline.create d o = .ok pl) :
    pl.decoder = d ∧ pl.options = o ∧ pl.count = 0 ∧ pl.entry = none ∧ pl.firstRecord = true := by
  unfold Pipeline.create at h
  cases hk : o.skipLines.findSome? Value.unhashableKind with
  | some k =>
    simp only [hk, bind, Except.bind] at h
    split at h
    · cases h
    · split at h <;> cases h
  | none =>
    simp only [hk, bind, Except.bind, pure, Except.pure] at h
    split at h
    · cases h
      exact ⟨rfl, rfl, rfl, rfl, rfl⟩
    · split at h
      · cases h
      · cases h
        exact ⟨rfl, rfl, rfl, rfl, rfl⟩

namespace Parser

/-- A prepared pipeline is fresh, with the parser's options. -/
theorem prepare_fresh {p : Parser} {pl : Pipeline} (h : p.prepare = .ok pl) :
    pl.count = 0 ∧ pl.entry = none ∧ pl.firstRecord = true ∧ pl.options = p.options := by
  unfold prepare at h
  simp only [bind, Except.bind] at h
  split at h
  · cases h
  · split at h
    · cases h
    · obtain ⟨-, ho, hc, he, hf⟩ := Pipeline.create_fresh h
      exact ⟨hc, he, hf, ho⟩

/-- A parse of a text that returns has carried every line of the text through the prepared
pipeline, and has exactly the tally of those lines. -/
theorem parseText_eq_linesTally {p : Parser} {text w : String} {r : Tally}
    (h : p.parseText text = ⟨w, .ok r⟩) :
    ∃ pl, p.prepare = .ok pl ∧ (∃ os q, pl.Runs (textLines text) os q) ∧
      r = pl.linesTally (textLines text) := by
  unfold parseText parseFeed at h
  cases hp : p.prepare with
  | error e => rw [hp] at h; cases h
  | ok pl =>
    rw [hp] at h
    simp only [runFeed, LineFeed.ofText] at h
    generalize hf : feedLines none none { pipeline := pl } (textLines text) = res at h
    obtain ⟨g, res⟩ := res
    cases res with
    | error e => cases h
    | ok b =>
      simp only [Run.mk.injEq, Except.ok.injEq] at h
      obtain ⟨-, rfl⟩ := h
      obtain ⟨os, hrun, htally, -, hall, hnone⟩ := feedLines_eq_ok hf
      obtain ⟨rfl, -⟩ := hnone rfl
      rw [hall rfl, List.take_length] at hrun
      refine ⟨pl, rfl, ⟨os, _, hrun⟩, ?_⟩
      have hg : g.tally = pl.linesTally (textLines text) := by
        rw [htally]
        exact hrun.tally_eq
      rw [hg]
      rfl

/-- **Line accounting.** When a parse of a text returns, its tally accounts for the physical lines
of the text as the prepared pipeline judges them, with the parser's options. -/
theorem parseText_accounting {p : Parser} {text w : String} {r : Tally}
    (h : p.parseText text = ⟨w, .ok r⟩) :
    ∃ pl, p.prepare = .ok pl ∧ pl.options = p.options ∧ pl.TextAccounting text r := by
  obtain ⟨pl, hp, ⟨os, q, hrun⟩, rfl⟩ := parseText_eq_linesTally h
  obtain ⟨hcount, hentry, -, hopts⟩ := prepare_fresh hp
  rw [textLines_eq] at hrun ⊢
  exact ⟨pl, hp, hopts, Pipeline.textAccounting_linesTally hrun hcount hentry⟩

/-- Three lines the label decoder refuses, one ending in a carriage return and one empty. -/
theorem parseText_refused_lines :
    let r : Tally := { total := 3, unmatched := 3,
                       audits := [⟨1, "x", none⟩, ⟨2, "", none⟩, ⟨3, "z", none⟩] }
    Parser.parseText { scheme := .labeled } "x\r\n\nz" = ⟨"", .ok r⟩ ∧
      ∃ pl, Parser.prepare { scheme := .labeled } = .ok pl ∧ pl.options = {} ∧
        pl.TextAccounting "x\r\n\nz" r :=
  have h : Parser.parseText { scheme := .labeled } "x\r\n\nz" =
      ⟨"", .ok { total := 3, unmatched := 3,
                 audits := [⟨1, "x", none⟩, ⟨2, "", none⟩, ⟨3, "z", none⟩] }⟩ := by
    with_unfolding_all rfl
  ⟨h, parseText_accounting h⟩

end Parser

end AccessLog

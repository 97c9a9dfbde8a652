import Mathlib
import AccessLog.Tally

/-!
# Sessions of an aggregator

An aggregator builds the tally of one parse from a sequence of calls: lines are recorded, the
tallies of archive entries merged, the parse marked cancelled, and at last the tally finalized
under the name of its source. A finalized aggregator refuses every call, as a runtime error, and a
refused call changes nothing: a *session* goes on after it with the aggregator as it was.

## What a session counts

The calls other than finalizing are *updates*. What updates make of a tally is said by `Tallied`:
the total grows by the lines recorded and the totals merged, each status counter by the lines of
that status recorded and the counters merged, the audit trail by the audit entry of each recorded
unmatched line and the audit entries of each merged tally, re-scoped to its entry, in call order;
the entries merged are listed, and the tally is cancelled exactly when an update marked it so.
`Tallied` composes along a session (`Tallied.append`), so it is proved once per kind of update.

## Consistency

A tally is consistent when its total is the sum of its four status counters. Recording keeps it
so, merging a consistent tally keeps it so, and no other call touches the counters, so a session
that merges only consistent tallies keeps an aggregator consistent after every call.

## Main statements

* `Tally.count_counter`: recording a line adds one to the counter of its status only.
* `Aggregator.session_updates`: a session of updates on an open aggregator, as `Tallied` says.
* `Aggregator.session_of_closed`: a finalized aggregator refuses every call and stays as it is.
* `Aggregator.session_consistent`: sessions keep an aggregator consistent.
* `Aggregator.finalized_session`: a session from a fresh aggregator to its finalization and on.
-/

namespace AccessLog

/-! ## Counters by status -/

/-- The counter of the lines of a status. -/
def Tally.counter (t : Tally) : Status → Int
  | .skipped => t.skipped
  | .unmatched => t.unmatched
  | .excluded => t.excluded
  | .matched => t.matched

theorem Tally.count_total (t : Tally) (o : Outcome) : (t.count o).total = t.total + 1 := by
  unfold Tally.count
  cases o.status <;> rfl

/-- Recording a line adds one to the counter of its status and nothing to the others. -/
theorem Tally.count_counter (t : Tally) (o : Outcome) (s : Status) :
    (t.count o).counter s = t.counter s + if o.status = s then 1 else 0 := by
  unfold Tally.count
  cases o.status <;> cases s <;> simp [Tally.counter]

theorem Tally.absorb_counter (t other : Tally) (e : String) (s : Status) :
    (t.absorb other e).counter s = t.counter s + other.counter s := by
  cases s <;> rfl

namespace Aggregator

/-! ## Calls and sessions -/

/-- A call that builds the tally: any call but finalizing. -/
inductive Update where
  /-- Count one line. -/
  | record (o : Outcome)
  /-- Add the tally of an archive entry under its name. -/
  | merge (t : Tally) (entry : String)
  /-- Mark the parse as cancelled. -/
  | markCancelled

/-- A call made on an aggregator. -/
inductive Call where
  /-- Build the tally. -/
  | update (u : Update)
  /-- Close the aggregator, naming its tally after the source. -/
  | finalize (source : String)

/-- Makes one call: the aggregator after it, or why it was refused. -/
def call (a : Aggregator) : Call → Except Error Aggregator
  | .update (.record o) => a.record o
  | .update (.merge t e) => a.merge t e
  | .update .markCancelled => a.markCancelled
  | .finalize s => (a.finalize s).map Prod.fst

/-- Makes one call; a refused call leaves the aggregator as it was. Gives the refusal, if any. -/
def step (a : Aggregator) (c : Call) : Aggregator × Option Error :=
  match a.call c with
  | .ok a' => (a', none)
  | .error e => (a, some e)

/-- Makes calls in order, going on after a refused one. Gives the aggregator after them and, call
by call, the refusal, if any. -/
def session (a : Aggregator) : List Call → Aggregator × List (Option Error)
  | [] => (a, [])
  | c :: cs => (((a.step c).1.session cs).1, (a.step c).2 :: ((a.step c).1.session cs).2)

theorem session_append (a : Aggregator) (cs cs' : List Call) :
    a.session (cs ++ cs') =
      (((a.session cs).1.session cs').1, (a.session cs).2 ++ ((a.session cs).1.session cs').2) := by
  induction cs generalizing a with
  | nil => rfl
  | cons c cs ih => simp [session, ih]

/-! ## What updates count -/

namespace Update

/-- The lines recorded by updates, in order. -/
def recorded (us : List Update) : List Outcome :=
  us.filterMap fun | .record o => some o | _ => none

/-- The tallies merged by updates, with their entries, in order. -/
def merged (us : List Update) : List (Tally × String) :=
  us.filterMap fun | .merge t e => some (t, e) | _ => none

/-- The audit entries an update adds: that of a recorded unmatched line, or those of a merged
tally, re-scoped to its entry. -/
def audits : Update → List Audit
  | .record o => if o.status = .unmatched then o.audit.toList else []
  | .merge t e => t.audits.map fun a => { a with entry := some e }
  | .markCancelled => []

/-- Whether an update marks the parse cancelled. -/
def cancels : Update → Bool
  | .markCancelled => true
  | _ => false

theorem recorded_append (us us' : List Update) : recorded (us ++ us') = recorded us ++ recorded us' :=
  List.filterMap_append

theorem merged_append (us us' : List Update) : merged (us ++ us') = merged us ++ merged us' :=
  List.filterMap_append

end Update

/-- `Tallied t₀ us t`: the tally `t` is `t₀` with the updates `us` counted in. The total grows by
the lines recorded and the totals merged, each status counter by the lines of that status recorded
and the counters merged; the audit trail grows by the updates' audit entries in order, the entries
by those merged; `t` is cancelled when `t₀` was or an update marked it so; its source is `t₀`'s. -/
structure Tallied (t₀ : Tally) (us : List Update) (t : Tally) : Prop where
  total : t.total = t₀.total + (Update.recorded us).length + ((Update.merged us).map (·.1.total)).sum
  counter : ∀ s, t.counter s = t₀.counter s + (Update.recorded us).countP (·.status == s) +
    ((Update.merged us).map (·.1.counter s)).sum
  audits : t.audits = t₀.audits ++ us.flatMap Update.audits
  entries : t.entries = t₀.entries ++ (Update.merged us).map (·.2)
  cancelled : t.cancelled = (t₀.cancelled || us.any Update.cancels)
  source : t.source = t₀.source

namespace Tallied

theorem nil (t : Tally) : Tallied t [] t where
  total := by simp [Update.recorded, Update.merged]
  counter s := by simp [Update.recorded, Update.merged]
  audits := by simp
  entries := by simp [Update.merged]
  cancelled := by simp
  source := rfl

theorem append {t₀ t₁ t₂ : Tally} {us us' : List Update} (h₁ : Tallied t₀ us t₁)
    (h₂ : Tallied t₁ us' t₂) : Tallied t₀ (us ++ us') t₂ where
  total := by
    rw [h₂.total, h₁.total, Update.recorded_append, Update.merged_append]
    simp only [List.length_append, List.map_append, List.sum_append]
    omega
  counter s := by
    rw [h₂.counter, h₁.counter, Update.recorded_append, Update.merged_append]
    simp only [List.countP_append, List.map_append, List.sum_append]
    omega
  audits := by rw [h₂.audits, h₁.audits, List.flatMap_append, List.append_assoc]
  entries := by rw [h₂.entries, h₁.entries, Update.merged_append, List.map_append, List.append_assoc]
  cancelled := by rw [h₂.cancelled, h₁.cancelled, List.any_append, Bool.or_assoc]
  source := h₂.source.trans h₁.source

theorem record (t : Tally) (o : Outcome) : Tallied t [.record o] (t.count o) where
  total := by simp [Update.recorded, Update.merged, Tally.count_total]
  counter s := by
    rw [Tally.count_counter]
    by_cases h : o.status = s <;> simp [Update.recorded, Update.merged, h]
  audits := by
    unfold Tally.count
    cases h : o.status <;> simp [Update.audits, h]
  entries := by
    unfold Tally.count
    cases o.status <;> simp [Update.merged]
  cancelled := by
    unfold Tally.count
    cases o.status <;> simp [Update.cancels]
  source := by
    unfold Tally.count
    cases o.status <;> rfl

theorem merge (t u : Tally) (e : String) : Tallied t [.merge u e] (t.absorb u e) where
  total := by simp [Update.recorded, Update.merged, Tally.absorb]
  counter s := by simp [Update.recorded, Update.merged, Tally.absorb_counter]
  audits := by simp [Update.audits, Tally.absorb]
  entries := by simp [Update.merged, Tally.absorb]
  cancelled := by simp [Update.cancels, Tally.absorb]
  source := rfl

theorem markCancelled (t : Tally) : Tallied t [.markCancelled] { t with cancelled := true } where
  total := by simp [Update.recorded, Update.merged]
  counter s := by cases s <;> simp [Update.recorded, Update.merged, Tally.counter]
  audits := by simp [Update.audits]
  entries := by simp [Update.merged]
  cancelled := by simp [Update.cancels]
  source := rfl

end Tallied

/-! ## Open and finalized aggregators -/

section Open

variable {a : Aggregator} (h : a.closed = false)

include h

theorem call_record (o : Outcome) :
    a.call (.update (.record o)) = .ok { a with tally := a.tally.count o } := by
  simp [call, record, ensureOpen, h, bind, Except.bind, pure, Except.pure]

theorem call_merge (t : Tally) (e : String) :
    a.call (.update (.merge t e)) = .ok { a with tally := a.tally.absorb t e } := by
  simp [call, merge, ensureOpen, h, bind, Except.bind, pure, Except.pure]

theorem call_markCancelled :
    a.call (.update .markCancelled) = .ok { a with tally := { a.tally with cancelled := true } } := by
  simp [call, markCancelled, ensureOpen, h, bind, Except.bind, pure, Except.pure]

/-- Finalizing an open aggregator closes it, with its tally named after the source. -/
theorem finalize_of_open (source : String) :
    a.finalize source =
      .ok ({ tally := { a.tally with source := source }, closed := true },
        { a.tally with source := source }) := by
  simp [finalize, ensureOpen, h, bind, Except.bind, pure, Except.pure]

theorem call_finalize (source : String) :
    a.call (.finalize source) = .ok { tally := { a.tally with source := source }, closed := true } := by
  simp [call, finalize_of_open h, Except.map]

/-- An open aggregator accepts an update, stays open, and counts it in. -/
theorem step_update (u : Update) :
    (a.step (.update u)).2 = none ∧ (a.step (.update u)).1.closed = false ∧
      Tallied a.tally [u] (a.step (.update u)).1.tally := by
  cases u with
  | record o =>
    simp only [step, call_record h]
    exact ⟨trivial, h, Tallied.record a.tally o⟩
  | merge t e =>
    simp only [step, call_merge h]
    exact ⟨trivial, h, Tallied.merge a.tally t e⟩
  | markCancelled =>
    simp only [step, call_markCancelled h]
    exact ⟨trivial, h, Tallied.markCancelled a.tally⟩

end Open

/-- A session of updates on an open aggregator accepts them all, leaves it open, and counts them
in. -/
theorem session_updates {a : Aggregator} (h : a.closed = false) (us : List Update) :
    (a.session (us.map Call.update)).2 = us.map (fun _ ↦ none) ∧
      (a.session (us.map Call.update)).1.closed = false ∧
      Tallied a.tally us (a.session (us.map Call.update)).1.tally := by
  induction us generalizing a with
  | nil => exact ⟨rfl, h, Tallied.nil a.tally⟩
  | cons u us ih =>
    obtain ⟨hu, hopen, ht⟩ := step_update h u
    obtain ⟨hs, hclosed, hts⟩ := ih hopen
    refine ⟨by simp [session, hu, hs], by simpa [session] using hclosed, ?_⟩
    simpa [session] using ht.append hts

/-- A finalized aggregator refuses every call. -/
theorem call_of_closed {a : Aggregator} (h : a.closed = true) (c : Call) :
    a.call c = .error .finalized := by
  rcases c with (o | ⟨t, e⟩ | _) | s <;>
    simp [call, record, merge, markCancelled, finalize, ensureOpen, h, bind, Except.bind,
      Except.map]

/-- A finalized aggregator refuses every call of a session and stays as it is. -/
theorem session_of_closed {a : Aggregator} (h : a.closed = true) (cs : List Call) :
    a.session cs = (a, cs.map fun _ ↦ some .finalized) := by
  induction cs with
  | nil => rfl
  | cons c cs ih => simp [session, step, call_of_closed h, ih]

/-! ## Consistency -/

/-- Every call keeps an aggregator consistent, a merge provided the merged tally is. -/
theorem step_consistent {a : Aggregator} (h : a.tally.consistent = true) (c : Call)
    (hc : ∀ t e, c = .update (.merge t e) → t.consistent = true) :
    (a.step c).1.tally.consistent = true := by
  cases hclosed : a.closed with
  | true => simpa [step, call_of_closed hclosed] using h
  | false =>
    rcases c with (o | ⟨t, e⟩ | _) | s
    · simpa [step, call_record hclosed] using record_consistent a.tally o h
    · simpa [step, call_merge hclosed] using merge_consistent a.tally t e h (hc t e rfl)
    · simpa [step, call_markCancelled hclosed, Tally.consistent] using h
    · simpa [step, call_finalize hclosed, Tally.consistent] using h

/-- The tallies updates merge are those their calls merge. -/
theorem merged_of_updates {us : List Update} (hm : ∀ t e, Update.merge t e ∈ us → t.consistent = true) :
    ∀ t e, Call.update (.merge t e) ∈ us.map Call.update → t.consistent = true := by
  intro t e he
  obtain ⟨u, hu, hue⟩ := List.mem_map.mp he
  cases hue
  exact hm t e hu

/-- A session that merges only consistent tallies keeps an aggregator consistent. -/
theorem session_consistent {a : Aggregator} (h : a.tally.consistent = true) (cs : List Call)
    (hm : ∀ t e, Call.update (.merge t e) ∈ cs → t.consistent = true) :
    (a.session cs).1.tally.consistent = true := by
  induction cs generalizing a with
  | nil => exact h
  | cons c cs ih =>
    have hc := step_consistent h c fun t e he ↦ hm t e (he ▸ List.mem_cons_self)
    exact ih hc fun t e he ↦ hm t e (List.mem_cons_of_mem c he)

/-! ## Sessions up to the finalization -/

/-- **Sessions of an aggregator.** From a fresh aggregator, every update is accepted, and the
tally the updates build is the empty tally with them counted in (`Tallied`): in particular
recording a line adds one to the total and to the counter of its status only, and the tally is
cancelled exactly when an update marked it so. Finalizing gives that tally named after the source.
When every merged tally is consistent, the aggregator is consistent after every call, before the
finalization and after it. Once finalized, the aggregator refuses every call, as a runtime error,
and stays as it is, its tally the finalized one. -/
theorem finalized_session (us : List Update) (source : String) (later : List Call) :
    let a := ({} : Aggregator).session (us.map Call.update)
    let r : Tally := { a.1.tally with source := source }
    a.2 = us.map (fun _ ↦ none) ∧ Tallied {} us a.1.tally ∧
      (∀ (b : Aggregator) (o : Outcome), b.closed = false →
        (b.step (.update (.record o))).1.tally.total = b.tally.total + 1 ∧
        ∀ s, (b.step (.update (.record o))).1.tally.counter s =
          b.tally.counter s + if o.status = s then 1 else 0) ∧
      a.1.finalize source = .ok ({ tally := r, closed := true }, r) ∧
      ((∀ t e, Update.merge t e ∈ us → t.consistent = true) →
        r.consistent = true ∧ ∀ n, (({} : Aggregator).session
          ((us.map Call.update ++ Call.finalize source :: later).take n)).1.tally.consistent = true) ∧
      ({ tally := r, closed := true } : Aggregator).session later =
        ({ tally := r, closed := true }, later.map fun _ ↦ some .finalized) ∧
      Error.finalized.kindName = "RuntimeError" := by
  intro a r
  obtain ⟨hs, hopen, ht⟩ := session_updates (a := {}) rfl us
  have hfin : a.1.finalize source = .ok ({ tally := r, closed := true }, r) :=
    finalize_of_open hopen source
  refine ⟨hs, ht, fun b o hb ↦ ?_, hfin, fun hm ↦ ?_, session_of_closed rfl later, rfl⟩
  · simp only [step, call_record hb]
    exact ⟨Tally.count_total b.tally o, Tally.count_counter b.tally o⟩
  · have hcons : a.1.tally.consistent = true := session_consistent rfl _ (merged_of_updates hm)
    refine ⟨hcons, fun n ↦ ?_⟩
    by_cases hn : n ≤ us.length
    · rw [List.take_append_of_le_length (by simpa using hn), ← List.map_take]
      exact session_consistent rfl _
        (merged_of_updates fun t e he ↦ hm t e (List.mem_of_mem_take he))
    · obtain ⟨k, rfl⟩ : ∃ k, n = us.length + 1 + k := ⟨n - us.length - 1, by omega⟩
      rw [List.take_append, List.take_of_length_le (by simp; omega), List.length_map,
        show us.length + 1 + k - us.length = k + 1 by omega, List.take_succ_cons,
        ← List.singleton_append, ← List.append_assoc, session_append, session_append]
      have hf : (a.1.session [.finalize source]).1 = { tally := r, closed := true } := by
        simp [session, step, call, hfin, Except.map]
      rw [hf, session_of_closed rfl]
      exact hcons

end Aggregator

end AccessLog

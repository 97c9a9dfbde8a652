import AccessLog.Parser

/-!
# Registering patterns

A pattern set is built by steps: `add` appends one candidate taken as a field pattern, `addAll` a
batch of them, `clear` empties the set. A candidate is a value, compiled when it is taken, or a
pattern compiled before, which only goes through the group checks. A set made from a list of
candidates is that batch added to the empty set (`PatternSet.ofCandidates_eq_apply`), so every
set a parser holds comes from some sequence of steps.

## Taking one candidate

The documented contract of taking a candidate (`FieldPattern.documented`) is a chain of checks,
the first that fails naming the refusal: the candidate must be a compiled pattern or text that
compiles, then capture some group, then name every group. Each refusal is one *as a pattern*
(`PatternSet.refusesPattern`), and that is what a batch reacts to by emptying the set.

The contract speaks of text, of compiled text patterns and of values that are no byte string
(`Candidate.covered`). A byte string is compiled by the code too, into a pattern that can search
no text, where the contract refuses it; so is a compiled pattern of one taken as it is.

The code keeps to the contract exactly for the covered candidates within the engine's limits
(`Candidate.withinEngine`). Text that reads as a pattern but passes one of the engine's limits (a
repetition count of `4294967295` or more, the ASCII and UNICODE flags together, a look-behind
reaching back `2 ^ 31` characters, groups nested deeper than the reader follows) fails with the
engine's own error, and that error is no refusal as a pattern: a batch that meets it leaves the
set as it was, the patterns held before included, and raises it.

## The registration model

`registered` says what a step does to the held patterns under the documented contract: `add`
appends, or leaves them when refused; `addAll` appends the whole batch when every candidate is
taken, and otherwise empties the set and raises the refusal of the first candidate that fails;
`clear` empties it. A set follows the model step by step for as long as its candidates stay
within the engine's limits, and whatever the steps, every held pattern is a field pattern compiled
from its own text.

## Main statements

* `mapM_eq_error_iff`: checks run over a list in order fail with the first failure.
* `compileBatch_eq_error_iff`: a batch fails with the error of its first candidate that fails.
* `FieldPattern.ofCandidate_eq_ok_iff`: the candidates taken as a field pattern.
* `FieldPattern.ofCandidate_eq_documented_iff`: a covered candidate is taken as documented exactly
  when it is within the engine's limits.
* `PatternSet.applyAll_isField`: after any steps every held pattern is a field pattern.
* `PatternSet.applyAll_registered`: within the engine's limits a set follows the model.
* `PatternSet.registration`: the contract of registration, as one statement.
* `PatternSet.contradicting_flags_escape`: text with contradicting flags is no refusal.
-/

namespace AccessLog

open Regex

/-! ## The engine's limits -/

/-- The error compiling a text fails with, if it fails. -/
def Regex.Pattern.compileError? (s : String) : Option CompileError :=
  match Pattern.compile s with
  | .ok _ => none
  | .error e => some e

theorem Regex.Pattern.compileError?_eq_some_iff {s : String} {e : CompileError} :
    Pattern.compileError? s = some e ↔ Pattern.compile s = .error e := by
  unfold Pattern.compileError?
  cases Pattern.compile s <;> simp

/-- Whether a text failed to compile for being no well-formed pattern, rather than for passing a
limit of the engine. -/
def Regex.CompileError.isMalformed : CompileError → Bool
  | .malformed _ => true
  | _ => false

/-- Whether the documented contract speaks of a candidate: every value but a byte string, and
every compiled pattern but one of a byte string. -/
def Candidate.covered : Candidate → Bool
  | .value (.bytes _) => false
  | .value _ => true
  | .compiled p => !p.pattern.isBytes

/-- Whether a candidate is within the engine's limits: covered by the contract and, when it is
text, compiling or failing only as a malformed pattern. -/
def Candidate.withinEngine : Candidate → Bool
  | .value (.str s) => (Pattern.compileError? s).all CompileError.isMalformed
  | c => c.covered

theorem Candidate.covered_of_withinEngine {c : Candidate} (h : c.withinEngine = true) :
    c.covered = true := by
  cases c with
  | value v => cases v <;> first | rfl | exact h
  | compiled p => exact h

/-- A compiled pattern keeps the text it was compiled from, and whether it was a byte string. -/
theorem Regex.Pattern.compile_ok {s : String} {f : Flags} {b : Bool} {p : Pattern}
    (h : Pattern.compile s f b = .ok p) : p.source = s ∧ p.isBytes = b := by
  unfold Pattern.compile at h
  split at h
  · cases h
    exact ⟨rfl, rfl⟩
  · cases h

/-! ## Taking one candidate -/

/-- A field pattern as a set holds it: compiled from its own text under some flags, capturing
some group, and naming every group. -/
def FieldPattern.IsField (p : FieldPattern) : Prop :=
  (∃ fl, Pattern.compile p.source fl p.pattern.isBytes = .ok p.pattern) ∧ 0 < p.groups ∧
    p.pattern.names.length = p.groups

/-- What a candidate compiles to: text and a byte string by compiling them, a compiled pattern as
it is; no other value compiles. -/
def Candidate.Compiles : Candidate → Pattern → Prop
  | .value (.str s), p => Pattern.compile s = .ok p
  | .value (.bytes bs), p => Pattern.compile (bytesText bs) {} true = .ok p
  | .value _, _ => False
  | .compiled q, p => q.pattern = p

/-- The documented way of taking a candidate: text that compiles goes through the group checks,
and text that does not compile, for whatever reason, is refused as a pattern that does not
compile, as is any value that is not text; a compiled pattern goes through the group checks. -/
def FieldPattern.documented : Candidate → Except Error FieldPattern
  | .value (.str s) =>
    match Pattern.compile s with
    | .ok p => checkGroups p
    | .error e => .error (.pattern (.doesNotCompile (e.text s)) s)
  | .value v => .error (refuseValue v)
  | .compiled p => checkGroups p.pattern

theorem checkGroups_eq_ok_iff {p : Pattern} {fp : FieldPattern} :
    checkGroups p = .ok fp ↔ fp.pattern = p ∧ 0 < p.groups ∧ p.names.length = p.groups := by
  obtain ⟨q⟩ := fp
  by_cases h0 : p.groups = 0
  · simp [checkGroups, h0]
  · by_cases hn : p.names.length = p.groups
    · simp [checkGroups, h0, hn, Nat.pos_of_ne_zero h0, eq_comm]
    · simp [checkGroups, h0, hn]

theorem groupFault_refuses (p : Pattern) (f : PatternFault) :
    PatternSet.refusesPattern (groupFault p f) = !(p.isBytes && 80 < p.source.length) := by
  unfold groupFault
  cases p.isBytes <;> by_cases h : 80 < p.source.length <;> simp [h, PatternSet.refusesPattern]

/-- The group checks refuse a pattern as a pattern, unless it is a byte string too long to be
named in the message. -/
theorem checkGroups_refuses {p : Pattern} {e : Error} (h : checkGroups p = .error e) :
    PatternSet.refusesPattern e = !(p.isBytes && 80 < p.source.length) := by
  unfold checkGroups at h
  split at h
  · cases h
    exact groupFault_refuses p _
  · split at h
    · cases h
      exact groupFault_refuses p _
    · cases h

theorem refuseValue_refuses (v : Value) : PatternSet.refusesPattern (refuseValue v) = true := rfl

namespace FieldPattern

theorem ofValue_str (s : String) :
    ofValue (.str s) =
      match Pattern.compile s with
      | .error e => .error (compileFault s s e)
      | .ok p => checkGroups p := rfl

theorem ofValue_bytes (bs : List Nat) :
    ofValue (.bytes bs) =
      match Pattern.compile (bytesText bs) {} true with
      | .error e => .error (compileFault (bytesText bs) (Value.bytesLiteral bs) e)
      | .ok p => checkGroups p := rfl

/-- A value that is neither text nor a byte string is refused, as documented. -/
theorem ofValue_of_other {v : Value} (hs : ∀ s, v ≠ .str s) (hb : ∀ bs, v ≠ .bytes bs) :
    ofValue v = .error (refuseValue v) ∧ documented (.value v) = .error (refuseValue v) := by
  cases v
  case str s => exact absurd rfl (hs s)
  case bytes bs => exact absurd rfl (hb bs)
  all_goals exact ⟨rfl, rfl⟩

/-- Text that does not compile fails with the fault of the compile error. -/
theorem ofValue_str_of_compileError {s : String} {e : CompileError}
    (h : Pattern.compileError? s = some e) : ofValue (.str s) = .error (compileFault s s e) := by
  rw [ofValue_str, Pattern.compileError?_eq_some_iff.mp h]

/-- The candidates taken as a field pattern: those compiling to a pattern that captures some group
and names every group. -/
theorem ofCandidate_eq_ok_iff {c : Candidate} {fp : FieldPattern} :
    ofCandidate c = .ok fp ↔
      c.Compiles fp.pattern ∧ 0 < fp.groups ∧ fp.pattern.names.length = fp.groups := by
  have hgroups : ∀ p, checkGroups p = .ok fp ↔
      p = fp.pattern ∧ 0 < fp.groups ∧ fp.pattern.names.length = fp.groups := by
    intro p
    rw [checkGroups_eq_ok_iff]
    constructor
    · rintro ⟨rfl, h⟩
      exact ⟨rfl, h⟩
    · rintro ⟨rfl, h⟩
      exact ⟨rfl, h⟩
  cases c with
  | value v =>
    by_cases hs : ∃ s, v = .str s
    · obtain ⟨s, rfl⟩ := hs
      rw [ofCandidate, ofValue_str]
      cases hc : Pattern.compile s with
      | error e => simp [Candidate.Compiles, hc]
      | ok p => simp [Candidate.Compiles, hc, hgroups]
    by_cases hb : ∃ bs, v = .bytes bs
    · obtain ⟨bs, rfl⟩ := hb
      rw [ofCandidate, ofValue_bytes]
      cases hc : Pattern.compile (bytesText bs) {} true with
      | error e => simp [Candidate.Compiles, hc]
      | ok p => simp [Candidate.Compiles, hc, hgroups]
    · have hv := (ofValue_of_other (fun s h => hs ⟨s, h⟩) (fun bs h => hb ⟨bs, h⟩)).1
      have hno : ¬ (Candidate.value v).Compiles fp.pattern := by
        cases v <;> simp_all [Candidate.Compiles]
      rw [ofCandidate, hv]
      simp [hno]
  | compiled q =>
    rw [ofCandidate, hgroups]
    rfl

/-- A candidate taken as a field pattern is a field pattern. -/
theorem ofCandidate_isField {c : Candidate} {fp : FieldPattern} (h : ofCandidate c = .ok fp) :
    fp.IsField := by
  obtain ⟨hc, h0, hn⟩ := ofCandidate_eq_ok_iff.mp h
  refine ⟨?_, h0, hn⟩
  cases c with
  | value v =>
    cases v
    case str s =>
      obtain ⟨hs, hb⟩ := Pattern.compile_ok hc
      exact ⟨{}, by rw [show fp.source = s from hs, hb]; exact hc⟩
    case bytes bs =>
      obtain ⟨hs, hb⟩ := Pattern.compile_ok hc
      exact ⟨{}, by rw [show fp.source = bytesText bs from hs, hb]; exact hc⟩
    all_goals exact hc.elim
  | compiled q =>
    have hq : q.pattern = fp.pattern := hc
    have hcomp := q.compiles
    rw [hq] at hcomp
    exact ⟨q.flags, hcomp⟩

/-- For a covered candidate, a refusal of the code is one as a pattern exactly when the candidate
is within the engine's limits: the errors of the engine are of their own kinds. -/
theorem ofCandidate_refuses_iff {c : Candidate} {e : Error} (hc : c.covered = true)
    (h : ofCandidate c = .error e) :
    PatternSet.refusesPattern e = true ↔ c.withinEngine = true := by
  cases c with
  | value v =>
    by_cases hs : ∃ s, v = .str s
    · obtain ⟨s, rfl⟩ := hs
      rw [ofCandidate, ofValue_str] at h
      simp only [Candidate.withinEngine, Pattern.compileError?]
      cases hp : Pattern.compile s with
      | ok p =>
        rw [hp] at h
        have hb : p.isBytes = false := (Pattern.compile_ok hp).2
        simp [checkGroups_refuses h, hb]
      | error ce =>
        rw [hp] at h
        cases h
        cases ce <;> rfl
    by_cases hb : ∃ bs, v = .bytes bs
    · obtain ⟨bs, rfl⟩ := hb
      cases hc
    · have hv := (ofValue_of_other (fun s h => hs ⟨s, h⟩) (fun bs h => hb ⟨bs, h⟩)).1
      rw [ofCandidate, hv] at h
      cases h
      simp only [refuseValue_refuses, true_iff]
      cases v <;> simp_all [Candidate.withinEngine, Candidate.covered]
  | compiled q =>
    have hb : q.pattern.isBytes = false := by simpa [Candidate.covered] using hc
    rw [ofCandidate] at h
    simp [checkGroups_refuses h, hb, Candidate.withinEngine, Candidate.covered]

/-- A covered candidate is taken as documented exactly when it is within the engine's limits. -/
theorem ofCandidate_eq_documented_iff {c : Candidate} (hc : c.covered = true) :
    ofCandidate c = documented c ↔ c.withinEngine = true := by
  cases c with
  | value v =>
    by_cases hs : ∃ s, v = .str s
    · obtain ⟨s, rfl⟩ := hs
      simp only [ofCandidate, documented, ofValue_str, Candidate.withinEngine,
        Pattern.compileError?]
      cases hp : Pattern.compile s with
      | ok p => simp
      | error ce => cases ce <;> simp [compileFault, CompileError.isMalformed, CompileError.text]
    by_cases hb : ∃ bs, v = .bytes bs
    · obtain ⟨bs, rfl⟩ := hb
      cases hc
    · obtain ⟨hv, hd⟩ := ofValue_of_other (fun s h => hs ⟨s, h⟩) (fun bs h => hb ⟨bs, h⟩)
      rw [ofCandidate, hv, hd]
      cases v <;> simp_all [Candidate.withinEngine, Candidate.covered]
  | compiled q =>
    simp only [ofCandidate, documented, Candidate.withinEngine, hc]

/-- The documented way refuses a covered candidate only as a pattern. -/
theorem documented_refuses {c : Candidate} {e : Error} (hc : c.covered = true)
    (h : documented c = .error e) : PatternSet.refusesPattern e = true := by
  cases c with
  | value v =>
    by_cases hs : ∃ s, v = .str s
    · obtain ⟨s, rfl⟩ := hs
      simp only [documented] at h
      split at h
      · rename_i p hp
        have hb : p.isBytes = false := (Pattern.compile_ok hp).2
        simp [checkGroups_refuses h, hb]
      · cases h
        rfl
    · have hd : documented (.value v) = .error (refuseValue v) := by
        cases v <;> simp_all [documented]
      rw [hd] at h
      cases h
      rfl
  | compiled q =>
    have hb : q.pattern.isBytes = false := by simpa [Candidate.covered] using hc
    simp [documented] at h
    simp [checkGroups_refuses h, hb]

end FieldPattern

/-! ## Batches -/

/-- Checks run over a list in order fail with the error of the first element that fails. -/
theorem mapM_eq_error_iff {α β ε : Type} {g : α → Except ε β} {xs : List α} {e : ε} :
    xs.mapM g = .error e ↔
      ∃ pre x post, xs = pre ++ x :: post ∧ (∀ u ∈ pre, (g u).isOk) ∧ g x = .error e := by
  induction xs with
  | nil => simp [pure, Except.pure]
  | cons x xs ih =>
    rw [List.mapM_cons]
    cases hx : g x with
    | error e' =>
      simp only [bind, Except.bind, Except.error.injEq, List.cons_eq_append_iff]
      constructor
      · rintro rfl
        exact ⟨[], x, xs, .inl ⟨rfl, rfl⟩, by simp, hx⟩
      · rintro ⟨pre, w, post, ⟨rfl, hw⟩ | ⟨pre', rfl, -⟩, hpre, hwe⟩
        · cases hw
          rw [hx] at hwe
          cases hwe
          rfl
        · have := hpre x List.mem_cons_self
          simp [hx, Except.isOk, Except.toBool] at this
    | ok b =>
      have hrest : (g x >>= fun b ↦ xs.mapM g >>= fun bs ↦ pure (b :: bs)) = .error e ↔
          xs.mapM g = .error e := by
        rw [hx]
        simp only [bind, Except.bind]
        cases xs.mapM g <;> simp [pure, Except.pure]
      rw [← hx, hrest, ih]
      simp only [List.cons_eq_append_iff]
      constructor
      · rintro ⟨pre, w, post, rfl, hpre, hwe⟩
        refine ⟨x :: pre, w, post, .inr ⟨pre, rfl, rfl⟩, fun u hu ↦ ?_, hwe⟩
        rcases List.mem_cons.mp hu with rfl | hu
        · simp [hx, Except.isOk, Except.toBool]
        · exact hpre u hu
      · rintro ⟨pre, w, post, ⟨rfl, hw⟩ | ⟨pre', rfl, rfl⟩, hpre, hwe⟩
        · cases hw
          rw [hx] at hwe
          cases hwe
        · exact ⟨pre', w, post, rfl, fun u hu ↦ hpre u (List.mem_cons_of_mem x hu), hwe⟩

theorem compileBatch_eq_mapM (cs : List Candidate) :
    compileBatch cs = cs.mapM FieldPattern.ofCandidate := by
  induction cs with
  | nil => rfl
  | cons c cs ih => rw [compileBatch, List.mapM_cons, ih]

/-- A batch fails with the error of its first candidate that fails, every candidate before it
being taken. -/
theorem compileBatch_eq_error_iff {cs : List Candidate} {e : Error} :
    compileBatch cs = .error e ↔
      ∃ pre c post, cs = pre ++ c :: post ∧ (∀ u ∈ pre, (FieldPattern.ofCandidate u).isOk) ∧
        FieldPattern.ofCandidate c = .error e := by
  rw [compileBatch_eq_mapM, mapM_eq_error_iff]

/-- A batch that is taken holds field patterns. -/
theorem compileBatch_isField {cs : List Candidate} {ps : List FieldPattern}
    (h : compileBatch cs = .ok ps) : ∀ p ∈ ps, p.IsField := by
  induction cs generalizing ps with
  | nil =>
    cases h
    simp
  | cons c cs ih =>
    simp only [compileBatch, bind, Except.bind] at h
    cases hc : FieldPattern.ofCandidate c with
    | error e => rw [hc] at h; cases h
    | ok q =>
      rw [hc] at h
      cases hr : compileBatch cs with
      | error e => rw [hr] at h; cases h
      | ok qs =>
        rw [hr] at h
        cases h
        intro p hp
        rcases List.mem_cons.mp hp with rfl | hp
        · exact FieldPattern.ofCandidate_isField hc
        · exact ih hr p hp

/-- Within the engine's limits a batch is taken as documented. -/
theorem compileBatch_eq_documented {cs : List Candidate} (h : ∀ c ∈ cs, c.withinEngine = true) :
    compileBatch cs = cs.mapM FieldPattern.documented := by
  induction cs with
  | nil => rfl
  | cons c cs ih =>
    have hc := h c List.mem_cons_self
    rw [compileBatch, List.mapM_cons,
      (FieldPattern.ofCandidate_eq_documented_iff (Candidate.covered_of_withinEngine hc)).mpr hc,
      ih fun u hu ↦ h u (List.mem_cons_of_mem c hu)]

/-- A documented batch within the engine's limits refuses only as a pattern. -/
theorem mapM_documented_refuses {cs : List Candidate} {e : Error}
    (hw : ∀ c ∈ cs, c.withinEngine = true) (h : cs.mapM FieldPattern.documented = .error e) :
    PatternSet.refusesPattern e = true := by
  obtain ⟨pre, c, post, rfl, -, hc⟩ := mapM_eq_error_iff.mp h
  have hin : c.withinEngine = true := hw c (by simp)
  exact FieldPattern.documented_refuses (Candidate.covered_of_withinEngine hin) hc

/-! ## Steps -/

/-- A step on a pattern set. -/
inductive PatternStep where
  /-- Append one candidate as a pattern. -/
  | add (c : Candidate)
  /-- Append a batch of candidates as patterns, all or none. -/
  | addAll (cs : List Candidate)
  /-- Remove every pattern. -/
  | clear

/-- The candidates a step takes. -/
def PatternStep.candidates : PatternStep → List Candidate
  | .add c => [c]
  | .addAll cs => cs
  | .clear => []

namespace PatternSet

/-- Takes one step: the set afterwards, and the error the step raised, if any. A refused `add`
leaves the set as it was. -/
def apply (s : PatternSet) : PatternStep → PatternSet × Option Error
  | .add c =>
    match s.add c with
    | .ok t => (t, none)
    | .error e => (s, some e)
  | .addAll cs => s.addAll cs
  | .clear => (s.clear, none)

/-- Takes steps in order, going on after a step that fails. Gives the set after them and, step
by step, the error raised, if any. -/
def applyAll (s : PatternSet) : List PatternStep → PatternSet × List (Option Error)
  | [] => (s, [])
  | st :: sts => (((s.apply st).1.applyAll sts).1, (s.apply st).2 :: ((s.apply st).1.applyAll sts).2)

/-- A set made from candidates is the batch of them added to the empty set. -/
theorem ofCandidates_eq_apply (cs : List Candidate) :
    ofCandidates cs = ({} : PatternSet).apply (.addAll cs) := by
  cases cs with
  | nil => rfl
  | cons c cs => rfl

/-- The documented model of one step over the held patterns: the patterns afterwards, and the
error raised, if any. -/
def registered (held : List FieldPattern) : PatternStep → List FieldPattern × Option Error
  | .add c =>
    match FieldPattern.documented c with
    | .ok p => (held ++ [p], none)
    | .error e => (held, some e)
  | .addAll cs =>
    match cs.mapM FieldPattern.documented with
    | .ok ps => (held ++ ps, none)
    | .error e => ([], some e)
  | .clear => ([], none)

/-- The documented model of steps taken in order. -/
def registeredAll (held : List FieldPattern) :
    List PatternStep → List FieldPattern × List (Option Error)
  | [] => (held, [])
  | st :: sts =>
    ((registeredAll (registered held st).1 sts).1,
      (registered held st).2 :: (registeredAll (registered held st).1 sts).2)

/-! ## Every held pattern is a field pattern -/

theorem apply_isField {s : PatternSet} (hs : ∀ p ∈ s.patterns, p.IsField) (st : PatternStep) :
    ∀ p ∈ (s.apply st).1.patterns, p.IsField := by
  cases st with
  | add c =>
    simp only [apply, add, bind, Except.bind]
    cases hc : FieldPattern.ofCandidate c with
    | error e => exact hs
    | ok q =>
      intro p hp
      rcases List.mem_append.mp hp with hp | hp
      · exact hs p hp
      · rw [List.mem_singleton.mp hp]
        exact FieldPattern.ofCandidate_isField hc
  | addAll cs =>
    cases hb : compileBatch cs with
    | ok ps =>
      simp only [apply, addAll, hb]
      intro p hp
      rcases List.mem_append.mp hp with hp | hp
      · exact hs p hp
      · exact compileBatch_isField hb p hp
    | error e =>
      cases hr : refusesPattern e
      · simpa [apply, addAll, hb, hr] using hs
      · simp [apply, addAll, hb, hr]
  | clear => simp [apply, clear]

/-- Whatever the steps, a set of field patterns holds only field patterns. -/
theorem applyAll_isField {s : PatternSet} (hs : ∀ p ∈ s.patterns, p.IsField)
    (steps : List PatternStep) : ∀ p ∈ (s.applyAll steps).1.patterns, p.IsField := by
  induction steps generalizing s with
  | nil => exact hs
  | cons st sts ih => exact ih (apply_isField hs st)

/-! ## The model, step by step -/

/-- Within the engine's limits one step does what the model says. -/
theorem apply_registered (s : PatternSet) {st : PatternStep}
    (h : ∀ c ∈ st.candidates, c.withinEngine = true) :
    ((s.apply st).1.patterns, (s.apply st).2) = registered s.patterns st := by
  cases st with
  | add c =>
    have hin := h c List.mem_cons_self
    have hc := (FieldPattern.ofCandidate_eq_documented_iff
      (Candidate.covered_of_withinEngine hin)).mpr hin
    simp only [apply, add, registered, bind, Except.bind, ← hc]
    cases FieldPattern.ofCandidate c <;> rfl
  | addAll cs =>
    have hb : compileBatch cs = cs.mapM FieldPattern.documented := compileBatch_eq_documented h
    cases hm : cs.mapM FieldPattern.documented with
    | ok ps => simp [apply, addAll, registered, hb, hm]
    | error e => simp [apply, addAll, registered, hb, hm, mapM_documented_refuses h hm]
  | clear => rfl

/-- Within the engine's limits a set follows the model step by step. -/
theorem applyAll_registered (s : PatternSet) {steps : List PatternStep}
    (h : ∀ st ∈ steps, ∀ c ∈ st.candidates, c.withinEngine = true) :
    ((s.applyAll steps).1.patterns, (s.applyAll steps).2) = registeredAll s.patterns steps := by
  induction steps generalizing s with
  | nil => rfl
  | cons st sts ih =>
    obtain ⟨h1, h2⟩ := Prod.ext_iff.mp (apply_registered s (h st List.mem_cons_self))
    have hrest := ih (s.apply st).1 fun st' hst' ↦ h st' (List.mem_cons_of_mem st hst')
    rw [applyAll, registeredAll, ← h1, ← h2, ← hrest]

/-- A batch whose first failure is no refusal as a pattern leaves the set as it was. -/
theorem apply_addAll_of_not_refused {s : PatternSet} {cs : List Candidate} {e : Error}
    (h : compileBatch cs = .error e) (hr : refusesPattern e = false) :
    s.apply (.addAll cs) = (s, some e) := by
  simp [apply, addAll, h, hr]

/-- **Pattern registration.** Steps whose candidates are within the engine's limits follow the
registration model: after each, the held patterns and the error raised are those the model gives.
Whatever the steps, a set of field patterns holds only field patterns. A candidate is taken as a
field pattern exactly when it compiles (a compiled pattern as it is, text and a byte string by
compiling them) to a pattern capturing some group and naming every group. For the candidates the
contract speaks of, the code's way is the documented one exactly within the engine's limits, and
its refusals are refusals as a pattern exactly there; a batch fails with the error of its first
candidate that fails, and when that error is no refusal the set is kept, not emptied. A set made
from candidates is the batch added to the empty set. -/
theorem registration (s : PatternSet) (steps : List PatternStep) :
    ((∀ st ∈ steps, ∀ c ∈ st.candidates, c.withinEngine = true) →
      ((s.applyAll steps).1.patterns, (s.applyAll steps).2) = registeredAll s.patterns steps) ∧
    ((∀ p ∈ s.patterns, p.IsField) → ∀ p ∈ (s.applyAll steps).1.patterns, p.IsField) ∧
    (∀ c fp, FieldPattern.ofCandidate c = .ok fp ↔
      c.Compiles fp.pattern ∧ 0 < fp.groups ∧ fp.pattern.names.length = fp.groups) ∧
    (∀ c, c.covered = true →
      (FieldPattern.ofCandidate c = FieldPattern.documented c ↔ c.withinEngine = true)) ∧
    (∀ c e, c.covered = true → FieldPattern.ofCandidate c = .error e →
      (refusesPattern e = true ↔ c.withinEngine = true)) ∧
    (∀ cs e, compileBatch cs = .error e ↔
      ∃ pre c post, cs = pre ++ c :: post ∧ (∀ u ∈ pre, (FieldPattern.ofCandidate u).isOk) ∧
        FieldPattern.ofCandidate c = .error e) ∧
    (∀ cs e, compileBatch cs = .error e → refusesPattern e = false →
      s.apply (.addAll cs) = (s, some e)) ∧
    (∀ cs, ofCandidates cs = ({} : PatternSet).apply (.addAll cs)) :=
  ⟨applyAll_registered s, fun hs ↦ applyAll_isField hs steps,
    fun _ _ ↦ FieldPattern.ofCandidate_eq_ok_iff,
    fun _ hc ↦ FieldPattern.ofCandidate_eq_documented_iff hc,
    fun _ _ hc h ↦ FieldPattern.ofCandidate_refuses_iff hc h, fun _ _ ↦ compileBatch_eq_error_iff,
    fun _ _ h hr ↦ apply_addAll_of_not_refused h hr, ofCandidates_eq_apply⟩

/-- Text setting the ASCII and UNICODE flags together does not compile, yet it is not refused as
a pattern: compiling it raises the engine's value error, and so does a batch holding it. -/
theorem contradicting_flags_escape :
    let e : Error := .incompatibleFlags "ASCII and UNICODE flags are incompatible"
    (Pattern.compile "(?u)(?a)x").isOk = false ∧
      Candidate.withinEngine (.value (.str "(?u)(?a)x")) = false ∧
      FieldPattern.ofCandidate (.value (.str "(?u)(?a)x")) = .error e ∧ e.kindName = "ValueError" ∧
      refusesPattern e = false ∧
      (({} : PatternSet).apply (.addAll [.value (.str "(?u)(?a)x")])).2 = some e := by
  intro e
  have hc : Pattern.compileError? "(?u)(?a)x" =
      some (.incompatible "ASCII and UNICODE flags are incompatible") := by
    decide +kernel
  have hv : FieldPattern.ofCandidate (.value (.str "(?u)(?a)x")) = .error e :=
    FieldPattern.ofValue_str_of_compileError hc
  have hok : (Pattern.compile "(?u)(?a)x").isOk = false := by
    rw [Pattern.compileError?_eq_some_iff.mp hc]
    rfl
  refine ⟨hok, by simp [Candidate.withinEngine, hc, CompileError.isMalformed], hv, rfl, rfl, ?_⟩
  have hb : compileBatch [.value (.str "(?u)(?a)x")] = .error e := by
    simp [compileBatch, hv, bind, Except.bind]
  rw [apply_addAll_of_not_refused hb rfl]

end PatternSet

end AccessLog

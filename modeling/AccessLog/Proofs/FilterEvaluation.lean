import AccessLog.Proofs.FilterGrammar

/-!
# Evaluating filters

A record passes a list of filters when it passes each of them, tried in order. The evaluation is a
short-circuit conjunction: the first filter that does not pass ends it, and what that filter
answers is the answer, whatever follows (`Filter.allPass_of_first`). The evaluation of a
concatenation is therefore that of its first part unless that part passes, and that of the second
part otherwise (`Filter.allPass_append`); and a record on which no filter raises an error is
judged alike by every order of the filters (`Filter.allPass_perm`).

## How one filter stops an evaluation

A filter that does not pass stops the evaluation for one of four reasons (`Filter.Stops`): its
field is missing from the record; it compares numbers and the field's text is no plain number;
its pattern finds a match whose group spans the engine cannot report; or its test is false. The
first two are errors naming the line, the third is the engine's own error, and the last is the
answer `false`.

Which reason applies is settled by the field's text once the filter is *well formed*: prepared
with a pattern when its operator reads one, with a number when it compares numbers, and with
nothing otherwise. Compiling makes only such filters (`Filter.compile_wellFormed`), and for them
a filter that does not pass stops for exactly one reason (`Filter.passes_eq_of_stops`).

The third reason is no refusal by the filter. The engine found a match and only cannot report it:
a possessive repetition whose body holds a group can leave that group's end marked before its
start (`Filter.unreported_match_raises`). The evaluation then raises the engine's error instead
of answering.

## Main statements

* `Filter.compile_wellFormed`: compiled filters are well formed.
* `Filter.passes_eq_of_stops`: a filter that does not pass answers as its reason says.
* `Filter.allPass_of_first`: the first filter that does not pass decides.
* `Filter.allPass_append`, `Filter.allPass_perm`: evaluation over a concatenation and over a
  reordering.
* `Filter.allPass_short_circuit`: the evaluation of well-formed filters, as one statement.
* `Filter.unreported_match_raises`: a match the engine cannot report raises its error.
-/

namespace AccessLog

open Regex Number Text

/-- Whether a prepared value is what an operator reads: a pattern for a pattern operator, a
number for a numeric one, and nothing for the others. -/
def Prepared.fits (op : Operator) : Prepared → Bool
  | .regex _ => op.isRegex
  | .number _ => op.isNumeric
  | .text => !op.isRegex && !op.isNumeric

/-- A computation whose result is known through a map has a result. The kernel evaluates such
mapped forms of a compiled pattern, which itself is too large to write down. -/
theorem ok_of_toOption_map {ε α β : Type} {x : Except ε α} {f : α → β} {b : β}
    (h : x.toOption.map f = some b) : ∃ a, x = .ok a ∧ f a = b := by
  cases x with
  | error e => cases h
  | ok a => exact ⟨a, rfl, by simpa [Except.toOption] using h⟩

theorem eq_ok_of_toOption {ε α : Type} {x : Except ε α} {a : α} (h : x.toOption = some a) :
    x = .ok a := by
  cases x with
  | error e => cases h
  | ok b =>
    cases h
    rfl

namespace Filter

/-! ## Well-formed filters -/

/-- A filter is well formed when what it prepared is what its operator reads. -/
def WellFormed (f : Filter) : Prop := f.prepared.fits f.op = true

instance : DecidablePred WellFormed := fun f =>
  inferInstanceAs (Decidable (f.prepared.fits f.op = true))

/-- Compiling prepares what the operator reads: a pattern, a number or nothing. -/
theorem compile_wellFormed {s : String} {known : Option (List String)} {f : Filter}
    (h : compile s known = .ok f) : f.WellFormed := by
  cases compile_eq_ok_iff.mp h with
  | text _ _ hre hn => simp [WellFormed, Prepared.fits, hre, hn]
  | regex _ _ hre _ => exact hre
  | number _ _ hn _ => exact hn

/-! ## Tests that cannot be made -/

theorem matchesIn_eq_error_iff {p : Pattern} {v : String} {fault : TestFault} :
    matchesIn p v = .error fault ↔ fault = .unreportable ∧ (p.search v).isOk = false := by
  unfold matchesIn
  cases p.search v with
  | ok m => simp [Except.isOk, Except.toBool]
  | error e =>
    simp only [Except.error.injEq, Except.isOk, Except.toBool, and_true]
    exact eq_comm

theorem numberIn_eq_error_iff {v : String} {fault : TestFault} :
    numberIn v = .error fault ↔ ∃ nf, fault = .notNumber nf ∧ readPlainNumber v = .error nf := by
  unfold numberIn
  cases readPlainNumber v <;> simp [Except.mapError, eq_comm]

theorem map_eq_error_iff {ε α β : Type} {x : Except ε α} {g : α → β} {e : ε} :
    x.map g = .error e ↔ x = .error e := by
  cases x <;> simp [Except.map]

/-- A well-formed filter's test can be made on every text but two kinds: a text that is no plain
number, under a numeric operator; a text in which the filter's pattern finds a match the engine
cannot report. -/
theorem test_eq_error_iff {f : Filter} (hf : f.WellFormed) {v : String} {fault : TestFault} :
    f.test v = .error fault ↔
      (∃ nf, fault = .notNumber nf ∧ f.op.isNumeric = true ∧ readPlainNumber v = .error nf) ∨
      (fault = .unreportable ∧ ∃ p, f.prepared = .regex p ∧ (p.search v).isOk = false) := by
  obtain ⟨field, op, value, expression, prepared⟩ := f
  cases op <;> cases prepared <;>
    simp only [WellFormed, Prepared.fits, Operator.isRegex, Operator.isNumeric, Bool.not_false,
      Bool.not_true, Bool.and_self, Bool.and_false, Bool.false_eq_true] at hf <;>
    simp only [test]
  all_goals
    simp [matchesIn_eq_error_iff, numberIn_eq_error_iff, map_eq_error_iff, Operator.isNumeric]

/-! ## How one filter stops an evaluation -/

theorem passes_eq_ok_true_iff {f : Filter} {r : Record} {n : Option Int} :
    f.passes r n = .ok true ↔ ∃ v, r.get f.field = some v ∧ f.test v = .ok true := by
  unfold passes
  cases r.get f.field with
  | none => simp
  | some v =>
    simp only [Option.some.injEq, exists_eq_left']
    cases f.test v with
    | ok b => simp
    | error fault => cases fault <;> simp

/-- Why a filter that does not pass stops an evaluation, with the answer it gives. -/
inductive Stops (r : Record) (n : Option Int) (f : Filter) : Except Error Bool → Prop where
  /-- The field is missing from the record: an error naming the line. -/
  | missing : r.get f.field = none →
      Stops r n f (.error (.line (.fieldMissing f.field f.expression) n ""))
  /-- The filter compares numbers and the field's text is no plain number: an error naming the
  line. -/
  | notNumeric {v : String} : r.get f.field = some v → f.op.isNumeric = true →
      (readPlainNumber v).isOk = false →
      Stops r n f (.error (.line (.notNumeric f.field v f.expression) n ""))
  /-- The filter's pattern finds a match whose group spans cannot be reported: the engine's
  error. -/
  | wrongSpan {v : String} {p : Pattern} : r.get f.field = some v → f.prepared = .regex p →
      (p.search v).isOk = false → Stops r n f (.error .groupSpan)
  /-- The filter's test is false: the answer `false`. -/
  | rejected {v : String} : r.get f.field = some v → f.test v = .ok false → Stops r n f (.ok false)

variable {r : Record} {n : Option Int}

/-- A filter that does not pass stops the evaluation for one of the four reasons. -/
theorem stops_passes {f : Filter} (hf : f.WellFormed) (h : f.passes r n ≠ .ok true) :
    Stops r n f (f.passes r n) := by
  unfold passes at h ⊢
  cases hg : r.get f.field with
  | none => exact .missing hg
  | some v =>
    simp only [hg] at h ⊢
    cases ht : f.test v with
    | ok b =>
      cases b
      · exact .rejected hg ht
      · simp [ht] at h
    | error fault =>
      rcases (test_eq_error_iff hf).mp ht with ⟨nf, rfl, hnum, hx⟩ | ⟨rfl, p, hp, hs⟩
      · exact .notNumeric hg hnum (by rw [hx]; rfl)
      · exact .wrongSpan hg hp hs

/-- A well-formed filter answers as its reason for stopping says, so that reason is unique. -/
theorem passes_eq_of_stops {f : Filter} (hf : f.WellFormed) {a : Except Error Bool}
    (h : Stops r n f a) : f.passes r n = a := by
  cases h with
  | missing hg => simp [passes, hg]
  | @notNumeric v hg hnum hx =>
    obtain ⟨nf, hnf⟩ : ∃ nf, readPlainNumber v = .error nf := by
      cases hr : readPlainNumber v with
      | ok x => simp [hr, Except.isOk, Except.toBool] at hx
      | error nf => exact ⟨nf, rfl⟩
    have ht : f.test v = .error (.notNumber nf) :=
      (test_eq_error_iff hf).mpr (.inl ⟨nf, rfl, hnum, hnf⟩)
    simp [passes, hg, ht]
  | wrongSpan hg hp hs =>
    have ht := (test_eq_error_iff hf).mpr (.inr ⟨rfl, _, hp, hs⟩)
    simp [passes, hg, ht]
  | rejected hg ht => simp [passes, hg, ht]

/-! ## Evaluating a list -/

theorem allPass_cons (f : Filter) (fs : List Filter) :
    allPass r n (f :: fs) =
      (f.passes r n).bind fun b => if b then allPass r n fs else .ok false := rfl

/-- The evaluation of a concatenation: the first part's, unless it passes. -/
theorem allPass_append (fs₁ fs₂ : List Filter) :
    allPass r n (fs₁ ++ fs₂) =
      (allPass r n fs₁).bind fun b => if b then allPass r n fs₂ else .ok false := by
  induction fs₁ with
  | nil => rfl
  | cons f fs ih =>
    rw [List.cons_append, allPass_cons, allPass_cons, ih]
    cases f.passes r n with
    | error e => rfl
    | ok b => cases b <;> rfl

theorem allPass_eq_ok_true_iff {fs : List Filter} :
    allPass r n fs = .ok true ↔ ∀ f ∈ fs, f.passes r n = .ok true := by
  induction fs with
  | nil => simp [allPass]
  | cons f fs ih =>
    rw [allPass_cons]
    cases h : f.passes r n with
    | error e => simp [Except.bind, h]
    | ok b => cases b <;> simp [Except.bind, ih, h]

/-- **The first filter that does not pass decides.** Its answer is the answer, and the filters
after it are never applied. -/
theorem allPass_of_first {pre post : List Filter} {f : Filter}
    (hpre : ∀ g ∈ pre, g.passes r n = .ok true) (hf : f.passes r n ≠ .ok true) :
    allPass r n (pre ++ f :: post) = f.passes r n := by
  rw [allPass_append, allPass_eq_ok_true_iff.mpr hpre]
  show allPass r n (f :: post) = f.passes r n
  rw [allPass_cons]
  cases h : f.passes r n with
  | error e => rfl
  | ok b =>
    cases b
    · rfl
    · exact absurd h hf

/-- When the evaluation does not pass, some filter is the first not to pass. -/
theorem exists_first_of_ne {fs : List Filter} (h : allPass r n fs ≠ .ok true) :
    ∃ (pre : List Filter) (f : Filter) (post : List Filter),
      fs = pre ++ f :: post ∧ (∀ g ∈ pre, g.passes r n = .ok true) ∧ f.passes r n ≠ .ok true := by
  induction fs with
  | nil => exact absurd rfl h
  | cons g gs ih =>
    by_cases hg : g.passes r n = .ok true
    · have hgs : allPass r n gs ≠ .ok true := by
        rw [Ne, allPass_eq_ok_true_iff] at h ⊢
        exact fun hall => h fun f hf => (List.mem_cons.mp hf).elim (· ▸ hg) (hall f)
      obtain ⟨pre, f, post, rfl, hpre, hf⟩ := ih hgs
      refine ⟨g :: pre, f, post, rfl, ?_, hf⟩
      intro x hx
      exact (List.mem_cons.mp hx).elim (· ▸ hg) (hpre x)
    · exact ⟨[], g, gs, rfl, by simp, hg⟩

/-- A record on which no filter raises an error gets an answer. -/
theorem allPass_ok {fs : List Filter} (hok : ∀ f ∈ fs, ∃ b, f.passes r n = .ok b) :
    ∃ b, allPass r n fs = .ok b := by
  induction fs with
  | nil => exact ⟨true, rfl⟩
  | cons f fs ih =>
    obtain ⟨b, hb⟩ := hok f List.mem_cons_self
    rw [allPass_cons, hb]
    cases b
    · exact ⟨false, rfl⟩
    · exact ih fun g hg => hok g (List.mem_cons_of_mem f hg)

/-- On a record on which no filter raises an error, the order of the filters does not matter. -/
theorem allPass_perm {fs gs : List Filter} (hp : gs.Perm fs)
    (hok : ∀ f ∈ fs, ∃ b, f.passes r n = .ok b) : allPass r n gs = allPass r n fs := by
  obtain ⟨b, hb⟩ := allPass_ok hok
  obtain ⟨c, hc⟩ := allPass_ok fun g hg => hok g (hp.mem_iff.mp hg)
  have key : (∀ g ∈ gs, g.passes r n = .ok true) ↔ ∀ f ∈ fs, f.passes r n = .ok true :=
    ⟨fun h f hf => h f (hp.mem_iff.mpr hf), fun h g hg => h g (hp.mem_iff.mp hg)⟩
  rw [← allPass_eq_ok_true_iff, ← allPass_eq_ok_true_iff, hb, hc] at key
  simp only [Except.ok.injEq] at key
  rw [hb, hc, Bool.eq_iff_iff.mpr key]

/-- **Filters are a short-circuit conjunction.** For well-formed filters (every compiled filter
is one): a record passes exactly when each filter finds its field and its test holds there. When it
does not pass, the first filter that does not pass decides: the answer is the one its reason for
stopping gives, and no other, whatever follows it. A concatenation is evaluated as its first part
unless that part passes, and as its second part otherwise; and on a record on which no filter
raises, every order of the filters gives the same answer. -/
theorem allPass_short_circuit (r : Record) (n : Option Int) (fs : List Filter)
    (hfs : ∀ f ∈ fs, f.WellFormed) :
    (allPass r n fs = .ok true ↔ ∀ f ∈ fs, ∃ v, r.get f.field = some v ∧ f.test v = .ok true) ∧
    (allPass r n fs ≠ .ok true → ∃ (pre : List Filter) (f : Filter) (post : List Filter),
      fs = pre ++ f :: post ∧ (∀ g ∈ pre, g.passes r n = .ok true) ∧
      (∀ a, Stops r n f a ↔ allPass r n fs = a) ∧
      ∀ post', allPass r n (pre ++ f :: post') = allPass r n fs) ∧
    (∀ fs₁ fs₂ : List Filter,
      (allPass r n fs₁ = .ok true → allPass r n (fs₁ ++ fs₂) = allPass r n fs₂) ∧
      (allPass r n fs₁ ≠ .ok true → allPass r n (fs₁ ++ fs₂) = allPass r n fs₁)) ∧
    ((∀ f ∈ fs, ∃ b, f.passes r n = .ok b) →
      ∀ gs : List Filter, gs.Perm fs → allPass r n gs = allPass r n fs) := by
  refine ⟨?_, ?_, ?_, fun hok gs hp => allPass_perm hp hok⟩
  · rw [allPass_eq_ok_true_iff]
    exact forall₂_congr fun f _ => passes_eq_ok_true_iff
  · intro h
    obtain ⟨pre, f, post, rfl, hpre, hf⟩ := exists_first_of_ne h
    have hwf : f.WellFormed := hfs f (List.mem_append_right pre List.mem_cons_self)
    refine ⟨pre, f, post, rfl, hpre, fun a => ?_, fun post' => ?_⟩
    · rw [allPass_of_first hpre hf]
      exact ⟨passes_eq_of_stops hwf, fun ha => ha ▸ stops_passes hwf hf⟩
    · rw [allPass_of_first hpre hf, allPass_of_first hpre hf]
  · intro fs₁ fs₂
    constructor
    · intro h
      rw [allPass_append, h]
      rfl
    · intro h
      rw [allPass_append]
      cases h₁ : allPass r n fs₁ with
      | error e => rfl
      | ok b =>
        cases b
        · rfl
        · exact absurd h₁ h

/-- The filters `status == 200` and `size != 0` on a record of status `404` without a size: the
first filter stops the evaluation with `false`, so the second, which would find no field, is never
applied. -/
theorem allPass_short_circuit_status :
    let fs : List Filter := [⟨"status", .equal, "200", "status == 200", .text⟩,
      ⟨"size", .differ, "0", "size != 0", .text⟩]
    let r : Record := ⟨[("status", "404")]⟩
    (∀ f ∈ fs, f.WellFormed) ∧ allPass r (some 3) fs = .ok false ∧
      ∃ (pre : List Filter) (f : Filter) (post : List Filter),
        fs = pre ++ f :: post ∧ Stops r (some 3) f (.ok false) := by
  intro fs r
  have hwf : ∀ f ∈ fs, f.WellFormed := by decide
  have hval : allPass r (some 3) fs = .ok false := rfl
  obtain ⟨pre, f, post, hfs, -, hstops, -⟩ :=
    (allPass_short_circuit r (some 3) fs hwf).2.1 (by rw [hval]; simp)
  exact ⟨hwf, hval, pre, f, post, hfs, (hstops _).mpr hval⟩

/-- **A match the engine cannot report raises its error.** The filter `m !~ (?:(a)|b)*+`
compiles, and its pattern matches `abb`: the possessive repetition takes `a`, then `b` twice.
The engine cannot report that match, since it leaves the group's end before its start, so the
evaluation on the record `m: abb` raises the engine's `SystemError` where the filter's test would
have answered. -/
theorem unreported_match_raises :
    ∃ f, compile "m !~ (?:(a)|b)*+" none = .ok f ∧
      allPass ⟨[("m", "abb")]⟩ (some 1) [f] = .error .groupSpan ∧
      Error.groupSpan.kindName = "SystemError" := by
  have hsearch : ((Pattern.compile "(?:(a)|b)*+" { ignoreCase := false }).toOption.map
      fun p => (p.search "abb").isOk) = some false := by
    decide +kernel
  obtain ⟨p, hc, hs⟩ := ok_of_toOption_map hsearch
  have hsplit : splitBlanks "m !~ (?:(a)|b)*+" = ["m", "!~", "(?:(a)|b)*+"] := by decide
  have hop : Operator.ofToken? "!~" = some .missed := by decide
  have hcase : Operator.missed.ignoresCase = false := by decide +kernel
  let f : Filter := ⟨"m", .missed, "(?:(a)|b)*+", "m !~ (?:(a)|b)*+", .regex p⟩
  have hf : compile "m !~ (?:(a)|b)*+" none = .ok f := by
    simp [compile, hsplit, hop, hcase, Operator.isRegex, hc, f]
  have hstop : Stops ⟨[("m", "abb")]⟩ (some 1) f (.error .groupSpan) := .wrongSpan rfl rfl hs
  have hpass := passes_eq_of_stops (compile_wellFormed hf) hstop
  refine ⟨f, hf, ?_, rfl⟩
  rw [show [f] = [] ++ f :: [] from rfl, allPass_of_first (by simp) (by rw [hpass]; simp), hpass]

end Filter

end AccessLog

import Mathlib.Data.List.Forall2
import AccessLog.Proofs.ConfigurationChecks

/-!
# The grammar of filter expressions

An expression compiles exactly when it is three blank-separated words: a field the decoder is
known to produce (any field when nothing is known), the token of one of the twelve operators, and a
value the operator can read — a pattern that compiles for a pattern operator, ignoring case when
the token ends in `*`; a plain number for a numeric operator; any text for the others. The filter
keeps the three words, the whole expression and what the operator read from the value
(`Filter.Grammar`, `Filter.compile_eq_ok_iff`).

Otherwise compiling fails at the first check that does not hold, taken in the order: the number of
words, the field, the operator, the value (`Filter.Refusal`, `Filter.compile_eq_error_iff`). Both
characterizations come from one case analysis of the compiler (`Filter.compile_cases`), which meets
each check once.

Each check fails with an error of the expression, naming it, with one exception: a pattern value
that fails to compile for passing a limit of the engine rather than for being malformed. Then the
engine's own error is raised, the one a pattern set raises for such a pattern (`compileFault`), and
it is no error of the expression (`Filter.conflicting_flags_raise_value_error`).

A list of expressions compiles in order to the list of their filters, or fails with the error of
the first that does not compile.

## Main statements

* `Operator.ofToken?_eq_some_iff`: a token names the operator whose token it is.
* `Filter.compile_eq_ok_iff`: the expressions that compile, and to what.
* `Filter.compile_eq_error_iff`: the first failing check gives the error.
* `Filter.compileAll_str_eq_ok_iff`: a list compiles to its filters, in order.
* `Filter.compile_grammar`: the contract of the filter compiler, as one statement.
* `Filter.conflicting_flags_raise_value_error`: contradicting flags raise no expression error.
-/

namespace AccessLog

open Regex Text Number

namespace Operator

theorem ofToken?_token (op : Operator) : ofToken? op.token = some op := by
  cases op <;> decide

/-- A token names the operator whose token it is; no two operators share a token. -/
theorem ofToken?_eq_some_iff {t : String} {op : Operator} :
    ofToken? t = some op ↔ op.token = t := by
  constructor
  · intro h
    simpa using List.find?_some h
  · rintro rfl
    exact ofToken?_token op

theorem ofToken?_eq_none_iff {t : String} : ofToken? t = none ↔ ∀ op : Operator, op.token ≠ t := by
  constructor
  · intro h op hop
    rw [← hop, ofToken?_token] at h
    cases h
  · intro h
    cases ho : ofToken? t with
    | none => rfl
    | some op => exact absurd (ofToken?_eq_some_iff.mp ho) (h op)

theorem isRegex_of_isNumeric {op : Operator} (h : op.isNumeric = true) : op.isRegex = false := by
  cases op <;> simp_all [isNumeric, isRegex]

end Operator

namespace Filter

/-! ## The grammar and its refusals -/

/-- The filters an expression compiles to, by the grammar: three words, a field the decoder is
known to produce, an operator's token, and a value the operator can read. -/
inductive Grammar (s : String) (known : Option (List String)) : Filter → Prop where
  /-- An operator on texts, with any value. -/
  | text {name value : String} {op : Operator} : splitBlanks s = [name, op.token, value] →
      (∀ ks ∈ known, name ∈ ks) → op.isRegex = false → op.isNumeric = false →
      Grammar s known ⟨name, op, value, s, .text⟩
  /-- A pattern operator, with a value that compiles as a pattern, ignoring case when the token
  ends in `*`. -/
  | regex {name value : String} {op : Operator} {p : Pattern} :
      splitBlanks s = [name, op.token, value] → (∀ ks ∈ known, name ∈ ks) → op.isRegex = true →
      Pattern.compile value { ignoreCase := op.ignoresCase } = .ok p →
      Grammar s known ⟨name, op, value, s, .regex p⟩
  /-- A numeric operator, with a value that is a plain number. -/
  | number {name value : String} {op : Operator} {x : Float} :
      splitBlanks s = [name, op.token, value] → (∀ ks ∈ known, name ∈ ks) →
      op.isNumeric = true → readPlainNumber value = .ok x →
      Grammar s known ⟨name, op, value, s, .number x⟩

/-- The first check of an expression that fails, in the order the checks are made, with the error
it raises. -/
inductive Refusal (s : String) (known : Option (List String)) : Error → Prop where
  /-- The expression is not three words. -/
  | malformed {words : List String} : splitBlanks s = words → words.length ≠ 3 →
      Refusal s known (.expression (.malformed words.length) s)
  /-- The field is not one the decoder is known to produce. -/
  | unknownField {name tok value : String} {ks : List String} :
      splitBlanks s = [name, tok, value] → known = some ks → name ∉ ks →
      Refusal s known (.expression (.unknownField name) s)
  /-- No operator has the token. -/
  | unknownOperator {name tok value : String} : splitBlanks s = [name, tok, value] →
      (∀ ks ∈ known, name ∈ ks) → (∀ op : Operator, op.token ≠ tok) →
      Refusal s known (.expression (.unknownOperator tok) s)
  /-- A pattern operator's value is a malformed pattern. -/
  | invalidRegex {name value : String} {op : Operator} {e : SyntaxError} :
      splitBlanks s = [name, op.token, value] → (∀ ks ∈ known, name ∈ ks) → op.isRegex = true →
      Pattern.compile value { ignoreCase := op.ignoresCase } = .error (.malformed e) →
      Refusal s known (.expression (.invalidRegex value (e.text value)) s)
  /-- A pattern operator's value passes a limit of the engine: the engine's own error. -/
  | engine {name value : String} {op : Operator} {ce : CompileError} :
      splitBlanks s = [name, op.token, value] → (∀ ks ∈ known, name ∈ ks) → op.isRegex = true →
      Pattern.compile value { ignoreCase := op.ignoresCase } = .error ce →
      ce.isMalformed = false → Refusal s known (compileFault value value ce)
  /-- A numeric operator's value is no plain number. -/
  | invalidNumber {name value : String} {op : Operator} :
      splitBlanks s = [name, op.token, value] → (∀ ks ∈ known, name ∈ ks) →
      op.isNumeric = true → (readPlainNumber value).isOk = false →
      Refusal s known (.expression (.invalidNumber value) s)

theorem known_any_eq_false_iff {known : Option (List String)} {name : String} :
    known.any (fun ks => !ks.contains name) = false ↔ ∀ ks ∈ known, name ∈ ks := by
  cases known <;> simp

/-- **One pass over the checks.** Compiling either succeeds with a filter of the grammar or fails
with the error of the first refusal. -/
theorem compile_cases (s : String) (known : Option (List String)) :
    (∃ f, compile s known = .ok f ∧ Grammar s known f) ∨
      (∃ e, compile s known = .error e ∧ Refusal s known e) := by
  unfold compile
  rcases hw : splitBlanks s with _ | ⟨name, _ | ⟨tok, _ | ⟨value, _ | ⟨w, ws⟩⟩⟩⟩ <;> simp only
  case cons.cons.cons.nil =>
    by_cases hk : known.any (fun ks => !ks.contains name) = true
    · rw [if_pos hk]
      obtain ⟨ks, hks, hn⟩ : ∃ ks, known = some ks ∧ name ∉ ks := by
        cases known <;> simp_all
      exact .inr ⟨_, rfl, .unknownField hw hks hn⟩
    rw [if_neg hk]
    have hknown : ∀ ks ∈ known, name ∈ ks := known_any_eq_false_iff.mp (by simpa using hk)
    cases hop : Operator.ofToken? tok with
    | none => exact .inr ⟨_, rfl, .unknownOperator hw hknown (Operator.ofToken?_eq_none_iff.mp hop)⟩
    | some op =>
      simp only
      rw [← Operator.ofToken?_eq_some_iff.mp hop] at hw
      by_cases hre : op.isRegex = true
      · rw [if_pos hre]
        cases hc : Pattern.compile value { ignoreCase := op.ignoresCase } with
        | ok p => exact .inl ⟨_, rfl, .regex hw hknown hre hc⟩
        | error ce =>
          cases ce with
          | malformed e => exact .inr ⟨_, rfl, .invalidRegex hw hknown hre hc⟩
          | overflow m => exact .inr ⟨_, rfl, .engine hw hknown hre hc rfl⟩
          | incompatible m => exact .inr ⟨_, rfl, .engine hw hknown hre hc rfl⟩
          | invalidCode => exact .inr ⟨_, rfl, .engine hw hknown hre hc rfl⟩
          | tooDeep => exact .inr ⟨_, rfl, .engine hw hknown hre hc rfl⟩
      rw [if_neg hre]
      by_cases hn : op.isNumeric = true
      · rw [if_pos hn]
        cases hx : readPlainNumber value with
        | ok x => exact .inl ⟨_, rfl, .number hw hknown hn hx⟩
        | error _ => exact .inr ⟨_, rfl, .invalidNumber hw hknown hn (by rw [hx]; rfl)⟩
      rw [if_neg hn]
      exact .inl ⟨_, rfl, .text hw hknown (by simpa using hre) (by simpa using hn)⟩
  all_goals exact .inr ⟨_, rfl, .malformed hw (by simp)⟩

/-- A filter of the grammar is what its expression compiles to. -/
theorem compile_of_grammar {s : String} {known : Option (List String)} {f : Filter}
    (h : Grammar s known f) : compile s known = .ok f := by
  cases h with
  | text hw hk hre hn =>
    unfold compile
    simp only [hw, known_any_eq_false_iff.mpr hk, Operator.ofToken?_token, hre, hn,
      Bool.false_eq_true, ↓reduceIte]
  | regex hw hk hre hc =>
    unfold compile
    simp only [hw, known_any_eq_false_iff.mpr hk, Operator.ofToken?_token, hre, hc,
      Bool.false_eq_true, ↓reduceIte]
  | number hw hk hn hx =>
    unfold compile
    simp only [hw, known_any_eq_false_iff.mpr hk, Operator.ofToken?_token,
      Operator.isRegex_of_isNumeric hn, hn, hx, Bool.false_eq_true, ↓reduceIte]

/-- A refusal's error is what compiling its expression raises. -/
theorem compile_of_refusal {s : String} {known : Option (List String)} {e : Error}
    (h : Refusal s known e) : compile s known = .error e := by
  cases h with
  | @malformed words hw hl =>
    unfold compile
    rw [hw]
    rcases words with _ | ⟨a, _ | ⟨b, _ | ⟨c, _ | ⟨d, ds⟩⟩⟩⟩ <;> simp at hl ⊢
  | unknownField hw hks hn =>
    unfold compile
    simp [hw, hks, hn]
  | unknownOperator hw hk hop =>
    unfold compile
    simp only [hw, known_any_eq_false_iff.mpr hk, Operator.ofToken?_eq_none_iff.mpr hop,
      Bool.false_eq_true, ↓reduceIte]
  | invalidRegex hw hk hre hc =>
    unfold compile
    simp only [hw, known_any_eq_false_iff.mpr hk, Operator.ofToken?_token, hre, hc,
      Bool.false_eq_true, ↓reduceIte]
  | @engine name value op ce hw hk hre hc hm =>
    unfold compile
    simp only [hw, known_any_eq_false_iff.mpr hk, Operator.ofToken?_token, hre, hc,
      Bool.false_eq_true, ↓reduceIte]
    cases ce <;> simp_all [CompileError.isMalformed, compileFault]
  | @invalidNumber name value op hw hk hn hx =>
    obtain ⟨nf, hnf⟩ : ∃ nf, readPlainNumber value = .error nf := by
      cases hr : readPlainNumber value with
      | ok x => simp [hr, Except.isOk, Except.toBool] at hx
      | error nf => exact ⟨nf, rfl⟩
    unfold compile
    simp only [hw, known_any_eq_false_iff.mpr hk, Operator.ofToken?_token,
      Operator.isRegex_of_isNumeric hn, hn, hnf, Bool.false_eq_true, ↓reduceIte]

theorem compile_eq_ok_iff {s : String} {known : Option (List String)} {f : Filter} :
    compile s known = .ok f ↔ Grammar s known f := by
  refine ⟨fun h => ?_, compile_of_grammar⟩
  rcases compile_cases s known with ⟨f', hc, hg⟩ | ⟨e, hc, -⟩ <;> rw [h] at hc <;> cases hc
  exact hg

theorem compile_eq_error_iff {s : String} {known : Option (List String)} {e : Error} :
    compile s known = .error e ↔ Refusal s known e := by
  refine ⟨fun h => ?_, compile_of_refusal⟩
  rcases compile_cases s known with ⟨f, hc, -⟩ | ⟨e', hc, hr⟩ <;> rw [h] at hc <;> cases hc
  exact hr

/-! ## Lists of expressions -/

theorem mapM_eq_ok_iff {α β ε : Type} {g : α → Except ε β} {xs : List α} {ys : List β} :
    xs.mapM g = .ok ys ↔ List.Forall₂ (fun x y => g x = .ok y) xs ys := by
  induction xs generalizing ys with
  | nil => cases ys <;> simp [pure, Except.pure]
  | cons x xs ih =>
    rw [List.mapM_cons]
    cases hx : g x with
    | error e => cases ys <;> simp [bind, Except.bind, hx]
    | ok y =>
      cases ys with
      | nil => cases xs.mapM g <;> simp [bind, Except.bind, pure, Except.pure]
      | cons y' ys =>
        rw [List.forall₂_cons, ← ih]
        cases xs.mapM g <;> simp [bind, Except.bind, pure, Except.pure, hx]

theorem compileAll_str (known : Option (List String)) (es : List String) :
    compileAll known (es.map .str) = es.mapM (compile · known) := by
  rw [compileAll_eq_mapM, List.mapM_map]
  rfl

/-- A list of expressions compiles, in order, to the list of their filters. -/
theorem compileAll_str_eq_ok_iff {known : Option (List String)} {es : List String}
    {fs : List Filter} :
    compileAll known (es.map .str) = .ok fs ↔
      List.Forall₂ (fun x f => compile x known = .ok f) es fs := by
  rw [compileAll_str, mapM_eq_ok_iff]

theorem compileAll_str_eq_error_iff {known : Option (List String)} {es : List String} {e : Error} :
    compileAll known (es.map .str) = .error e ↔
      ∃ (pre : List String) (x : String) (post : List String),
        es = pre ++ x :: post ∧ (∀ u ∈ pre, (compile u known).isOk) ∧
        compile x known = .error e := by
  rw [compileAll_str, mapM_eq_error_iff]

/-- **Filter expressions compile by their grammar.** An expression compiles exactly when it is
three words of the grammar, to the filter that keeps them with what its operator read from the
value. Otherwise it fails with the error of the first check that does not hold, in the order
words, field, operator, value; that error names the expression unless the value is a pattern that
passes a limit of the engine. A list of expressions compiles to their filters in order, or fails
with the error of the first that does not compile. -/
theorem compile_grammar (s : String) (known : Option (List String)) :
    (∀ f, compile s known = .ok f ↔ Grammar s known f) ∧
    (∀ e, compile s known = .error e ↔ Refusal s known e) ∧
    (∀ e, compile s known = .error e →
      ((∃ fault, e = .expression fault s) ↔ engineFault s known = none)) ∧
    (∀ (es : List String) (fs : List Filter), compileAll known (es.map .str) = .ok fs ↔
      List.Forall₂ (fun x f => compile x known = .ok f) es fs) ∧
    (∀ (es : List String) (e : Error), compileAll known (es.map .str) = .error e ↔
      ∃ (pre : List String) (x : String) (post : List String),
        es = pre ++ x :: post ∧ (∀ u ∈ pre, (compile u known).isOk) ∧ compile x known = .error e) :=
  ⟨fun _ => compile_eq_ok_iff, fun _ => compile_eq_error_iff,
    fun _ h => compile_names_expression_iff h, fun _ _ => compileAll_str_eq_ok_iff,
    fun _ _ => compileAll_str_eq_error_iff⟩

/-- **Contradicting flags escape the expression errors.** The expression `a =~ (?a)(?u)x` is three
words whose value reads as a pattern, yet compiling it raises the engine's `ValueError` for the
ASCII and UNICODE flags set together, which is no error of the expression. -/
theorem conflicting_flags_raise_value_error :
    let e : Error := .incompatibleFlags "ASCII and UNICODE flags are incompatible"
    compile "a =~ (?a)(?u)x" none = .error e ∧ e.kindName = "ValueError" ∧
      ¬∃ fault, e = .expression fault "a =~ (?a)(?u)x" := by
  intro e
  have hsplit : splitBlanks "a =~ (?a)(?u)x" = ["a", Operator.found.token, "(?a)(?u)x"] := by
    decide
  have hcase : Operator.found.ignoresCase = false := by decide +kernel
  have herr : Pattern.compileError? "(?a)(?u)x" =
      some (.incompatible "ASCII and UNICODE flags are incompatible") := by
    decide +kernel
  have hc : Pattern.compile "(?a)(?u)x" { ignoreCase := Operator.found.ignoresCase } =
      .error (.incompatible "ASCII and UNICODE flags are incompatible") := by
    rw [hcase]
    exact Pattern.compileError?_eq_some_iff.mp herr
  refine ⟨compile_of_refusal (.engine hsplit (by simp) rfl hc rfl), rfl, ?_⟩
  rintro ⟨fault, hf⟩
  exact Error.noConfusion hf

end Filter

end AccessLog

import Mathlib.Data.Bool.Basic
import AccessLog.Proofs.PlainNumbers

/-!
# Numeric filters

A filter with the operator `>`, `>=`, `<` or `<=` compares numbers. It compiles exactly when its
value is a plain number, and the texts that are plain numbers are those of the grammar of
`Number.NumberText`. On a record it raises the not-numeric error exactly when the field's text is
no plain number, and otherwise passes when the field's number stands to the value's as the
operator says (`Operator.compares`).

Floats compare as the numbers they stand for, and not-a-number compares with nothing. The other
floats lie on one extended line, where of two points one lies below the other or they are equal:
so `x < y` fails exactly when `y ≤ x` holds, as long as neither is not-a-number
(`floatLt_eq_not_floatLe_iff`). Hence a filter and the one with the negated operator (`>` and
`<=`, `<` and `>=`) pass on complementary records, except where a number is not-a-number, which
both refuse.

## Main statements

* `Number.floatLt_eq_not_floatLe_iff`: strict and weak comparisons are complementary exactly on
  numbers.
* `Operator.compares_negation_iff`: an operator and its negation answer oppositely exactly on
  numbers.
* `Filter.numeric_filters_plain_numbers`: the contract of numeric filters.
-/

namespace AccessLog

open Text Number

/-! ## Comparing floats -/

namespace Number

theorem Extended.compare_swap (a b : Extended) : (a.compare b).swap = b.compare a := by
  cases a <;> cases b <;> simp [Extended.compare, Int.compare_swap]

theorem scaled_eq_none_iff {x : Binary64} : x.scaled = none ↔ x = .nan := by
  cases x <;> simp [Binary64.scaled]

/-- **Strict and weak comparisons are complementary exactly on numbers**: of two floats other
than not-a-number, one is below the other exactly when the other is not below or equal to it. -/
theorem floatLt_eq_not_floatLe_iff {x y : Float} :
    floatLt x y = !floatLe y x ↔ view x ≠ .nan ∧ view y ≠ .nan := by
  unfold floatLt floatLe compareFloats
  simp only [ne_eq, ← scaled_eq_none_iff]
  cases (view x).scaled with
  | none => simp
  | some a =>
    cases (view y).scaled with
    | none => simp
    | some b =>
      dsimp only
      rw [← Extended.compare_swap a b]
      cases a.compare b <;> simp

end Number

/-! ## Numeric operators -/

namespace Operator

/-- Whether a field's number `a` stands to a filter's number `b` as a numeric operator says, as
floats compare; no other operator compares numbers. -/
def compares : Operator → Float → Float → Bool
  | .greater, a, b => floatLt b a
  | .greaterEqual, a, b => floatLe b a
  | .less, a, b => floatLt a b
  | .lessEqual, a, b => floatLe a b
  | _, _, _ => false

/-- The numeric operator that holds where another does not, on numbers: `>` and `<=`, `<` and
`>=`. -/
def negation : Operator → Operator
  | .greater => .lessEqual
  | .lessEqual => .greater
  | .less => .greaterEqual
  | .greaterEqual => .less
  | op => op

theorem isNumeric_negation {op : Operator} (h : op.isNumeric = true) :
    op.negation.isNumeric = true := by
  cases op <;> simp_all [negation, isNumeric]

/-- **An operator and its negation answer oppositely exactly on numbers.** -/
theorem compares_negation_iff {op : Operator} (h : op.isNumeric = true) {a b : Float} :
    op.compares a b = !op.negation.compares a b ↔ view a ≠ .nan ∧ view b ≠ .nan := by
  have hgt : floatLt b a = !floatLe a b ↔ view a ≠ .nan ∧ view b ≠ .nan := by
    rw [floatLt_eq_not_floatLe_iff, and_comm]
  have hlt : floatLt a b = !floatLe b a ↔ view a ≠ .nan ∧ view b ≠ .nan :=
    floatLt_eq_not_floatLe_iff
  cases op <;> simp only [isNumeric, Bool.false_eq_true] at h <;>
    simp only [compares, negation]
  · exact hgt
  · rw [Bool.eq_not_iff, ne_comm, ← Bool.eq_not_iff]
    exact hlt
  · exact hlt
  · rw [Bool.eq_not_iff, ne_comm, ← Bool.eq_not_iff]
    exact hgt

end Operator

/-! ## Numeric filters -/

namespace Filter

variable {f : Filter} {y : Float} {r : Record} {n : Option Int} {x : String}

/-- On a record holding a plain number in the field, a numeric filter passes when the field's
number stands to the filter's as the operator says. -/
theorem passes_of_number (hp : f.prepared = .number y) (hop : f.op.isNumeric = true)
    (hx : r.get f.field = some x) {a : Float} (ha : readPlainNumber x = .ok a) :
    f.passes r n = .ok (f.op.compares a y) := by
  have ht : f.test x = .ok (f.op.compares a y) := by
    obtain ⟨field, op, value, expression, prepared⟩ := f
    dsimp only at hp hop ⊢
    subst hp
    cases op <;> simp [Operator.isNumeric] at hop <;>
      simp [test, numberIn, ha, Except.mapError, Except.map, Operator.compares]
  simp [passes, hx, ht]

/-- On a record holding no plain number in the field, a numeric filter raises the not-numeric
error. -/
theorem passes_of_not_number (hp : f.prepared = .number y) (hop : f.op.isNumeric = true)
    (hx : r.get f.field = some x) (ha : (readPlainNumber x).isOk = false) :
    f.passes r n = .error (.line (.notNumeric f.field x f.expression) n "") := by
  obtain ⟨nf, hnf⟩ : ∃ nf, readPlainNumber x = .error nf := by
    cases hr : readPlainNumber x with
    | ok a => simp [hr, Except.isOk, Except.toBool] at ha
    | error nf => exact ⟨nf, rfl⟩
  have hwf : f.WellFormed := by simp [WellFormed, hp, Prepared.fits, hop]
  have ht : f.test x = .error (.notNumber nf) :=
    (test_eq_error_iff hwf).mpr (.inl ⟨nf, rfl, hop, hnf⟩)
  simp [passes, hx, ht]

/-- The three words of an expression fix its field, its operator and its value. -/
theorem words_eq {e name name' value value' : String} {op op' : Operator}
    (hw : splitBlanks e = [name, op.token, value]) (hw' : splitBlanks e = [name', op'.token, value']) :
    name' = name ∧ op' = op ∧ value' = value := by
  rw [hw] at hw'
  simp only [List.cons.injEq, and_true] at hw'
  obtain ⟨hname, htok, hvalue⟩ := hw'
  refine ⟨hname.symm, ?_, hvalue.symm⟩
  have h := Operator.ofToken?_token op
  rw [htok, Operator.ofToken?_token, Option.some.injEq] at h
  exact h

/-- A numeric expression compiles exactly to the filter that keeps the number its value reads
as. -/
theorem compile_numeric_eq_ok_iff {e name value : String} {known : Option (List String)}
    {op : Operator} (hop : op.isNumeric = true) (hw : splitBlanks e = [name, op.token, value])
    (hk : ∀ ks ∈ known, name ∈ ks) :
    compile e known = .ok f ↔ ∃ y, readPlainNumber value = .ok y ∧ f = ⟨name, op, value, e, .number y⟩ := by
  rw [compile_eq_ok_iff]
  constructor
  · intro h
    cases h with
    | text hw' _ _ hn =>
      obtain ⟨-, rfl, -⟩ := words_eq hw hw'
      rw [hop] at hn
      cases hn
    | regex hw' _ hre _ =>
      obtain ⟨-, rfl, -⟩ := words_eq hw hw'
      rw [Operator.isRegex_of_isNumeric hop] at hre
      cases hre
    | number hw' _ _ hx =>
      obtain ⟨rfl, rfl, rfl⟩ := words_eq hw hw'
      exact ⟨_, hx, rfl⟩
  · rintro ⟨y, hy, rfl⟩
    exact .number hw hk hop hy

/-- **Numeric filters compare plain numbers.** A text is a plain number exactly when it is a
number of the grammar, with the decimal digits of every script. A numeric expression
`name op value` compiles exactly when its value is a plain number. On a record whose field holds
`x`, the filter raises the not-numeric error exactly when `x` is no plain number, and otherwise
passes when the number of `x` stands to the value's as the operator says; the filter with the
negated operator then passes exactly where this one does not, unless a number is not-a-number. -/
theorem numeric_filters_plain_numbers {e e' name value : String} {known : Option (List String)}
    {op : Operator} (hop : op.isNumeric = true) (hw : splitBlanks e = [name, op.token, value])
    (hw' : splitBlanks e' = [name, op.negation.token, value]) (hk : ∀ ks ∈ known, name ∈ ks) :
    (∀ s : String, (readPlainNumber s).isOk = true ↔ NumberText isDecimal s.toList) ∧
    ((∃ f, compile e known = .ok f) ↔ (readPlainNumber value).isOk = true) ∧
    ∀ f f', compile e known = .ok f → compile e' known = .ok f' →
      ∀ (r : Record) (n : Option Int) (x : String), r.get name = some x →
        (f.passes r n = .error (.line (.notNumeric name x e) n "") ↔
          (readPlainNumber x).isOk = false) ∧
        ∀ a b, readPlainNumber x = .ok a → readPlainNumber value = .ok b →
          f.passes r n = .ok (op.compares a b) ∧
          ((f.passes r n = .ok true ↔ f'.passes r n = .ok false) ↔
            view a ≠ .nan ∧ view b ≠ .nan) := by
  have hop' := Operator.isNumeric_negation hop
  refine ⟨fun _ => readPlainNumber_isOk_iff, ?_, ?_⟩
  · constructor
    · rintro ⟨f, hf⟩
      obtain ⟨y, hy, -⟩ := (compile_numeric_eq_ok_iff hop hw hk).mp hf
      simp [hy, Except.isOk, Except.toBool]
    · intro hv
      cases hy : readPlainNumber value with
      | ok y => exact ⟨_, (compile_numeric_eq_ok_iff hop hw hk).mpr ⟨y, hy, rfl⟩⟩
      | error _ => simp [hy, Except.isOk, Except.toBool] at hv
  · intro f f' hf hf' r n x hx
    obtain ⟨y, hy, rfl⟩ := (compile_numeric_eq_ok_iff hop hw hk).mp hf
    obtain ⟨y', hy', rfl⟩ := (compile_numeric_eq_ok_iff hop' hw' hk).mp hf'
    refine ⟨⟨fun h => ?_, passes_of_not_number rfl hop hx⟩, fun a b ha hb => ?_⟩
    · cases ha : readPlainNumber x with
      | ok a =>
        rw [passes_of_number rfl hop hx ha] at h
        cases h
      | error _ => rfl
    · rw [hy] at hb hy'
      cases hb
      cases hy'
      rw [passes_of_number rfl hop hx ha, passes_of_number rfl hop' hx ha,
        ← Operator.compares_negation_iff hop]
      refine ⟨rfl, ?_⟩
      cases op.compares a y <;> cases op.negation.compares a y <;> simp

/-- The filters `status > 399` and `status <= 399`: the first compiles exactly when `399` is a
plain number. -/
theorem numeric_filters_status :
    splitBlanks "status > 399" = ["status", Operator.greater.token, "399"] ∧
    splitBlanks "status <= 399" = ["status", Operator.greater.negation.token, "399"] ∧
    ((∃ f, compile "status > 399" none = .ok f) ↔ (readPlainNumber "399").isOk = true) :=
  ⟨by decide, by decide,
    (@numeric_filters_plain_numbers "status > 399" "status <= 399" "status" "399" none .greater rfl
      (by decide) (by decide) (by simp)).2.1⟩

end Filter

end AccessLog

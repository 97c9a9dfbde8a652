import AccessLog.Proofs.NumericFilters

/-!
# What a glob spells

A glob is read as tokens (`globTokens`), and each token stands for a set of texts
(`GlobToken.Spells`): a character for itself, `*` for every text without `/`, `?` for every
character other than `/`, and a class for every character inside its ranges, or outside them when
it is negated. A name matches a glob when the name is one text of each token in turn (`Spelled`).

The matcher `matchTokens` decides this without guessing where each text ends: a token other than
`*` takes one character, and at a `*` it tries both to stop there and to take one more character
that is not `/` (`matchTokens_iff`).

## Main statements

* `Spelled.star_cons_iff`: a `*` spells nothing more, or one more character other than `/`.
* `matchTokens_iff`: the matcher decides what a glob spells.
-/

namespace AccessLog

/-- Whether the ranges of a class hold a character. -/
def InClass (units : List ClassUnit) (x : Char) : Prop :=
  ∃ r ∈ classRanges units, r.1 ≤ x ∧ x ≤ r.2

/-- The texts one token of a glob spells. -/
def GlobToken.Spells : GlobToken → List Char → Prop
  | .char c, w => w = [c]
  | .star, w => '/' ∉ w
  | .one, w => ∃ x, w = [x] ∧ x ≠ '/'
  | .cls neg units, w => ∃ x, w = [x] ∧ (InClass units x ↔ neg = false)

/-- The texts a list of tokens spells: one text of each token, in order. -/
inductive Spelled : List GlobToken → List Char → Prop
  | nil : Spelled [] []
  | cons {t : GlobToken} {ts : List GlobToken} {w s : List Char} :
      t.Spells w → Spelled ts s → Spelled (t :: ts) (w ++ s)

namespace GlobToken

/-- A token other than `*` spells single characters, those it accepts. -/
theorem spells_iff {t : GlobToken} (ht : t ≠ .star) {w : List Char} :
    t.Spells w ↔ ∃ x, w = [x] ∧ t.accepts x = true := by
  cases t with
  | char c =>
    simp only [Spells, accepts, beq_iff_eq]
    constructor
    · rintro rfl
      exact ⟨c, rfl, rfl⟩
    · rintro ⟨x, rfl, rfl⟩
      rfl
  | star => exact absurd rfl ht
  | one => simp [Spells, accepts]
  | cls neg units =>
    cases neg <;> simp [Spells, accepts, InClass, List.any_eq_true]

end GlobToken

namespace Spelled

theorem nil_iff {s : List Char} : Spelled [] s ↔ s = [] := by
  constructor
  · rintro ⟨⟩
    rfl
  · rintro rfl
    exact .nil

theorem cons_iff {t : GlobToken} {ts : List GlobToken} {s : List Char} :
    Spelled (t :: ts) s ↔ ∃ w r, s = w ++ r ∧ t.Spells w ∧ Spelled ts r := by
  constructor
  · intro h
    cases h with
    | cons ht hts => exact ⟨_, _, rfl, ht, hts⟩
  · rintro ⟨w, r, rfl, ht, hts⟩
    exact .cons ht hts

/-- A token other than `*` takes one character. -/
theorem single_cons_iff {t : GlobToken} (ht : t ≠ .star) {ts : List GlobToken} {x : Char}
    {s : List Char} : Spelled (t :: ts) (x :: s) ↔ t.accepts x = true ∧ Spelled ts s := by
  rw [cons_iff]
  constructor
  · rintro ⟨w, r, hs, hw, hr⟩
    obtain ⟨y, rfl, hy⟩ := (GlobToken.spells_iff ht).mp hw
    obtain ⟨rfl, rfl⟩ := List.cons.inj hs
    exact ⟨hy, hr⟩
  · rintro ⟨hx, hs⟩
    exact ⟨[x], s, rfl, (GlobToken.spells_iff ht).mpr ⟨x, rfl, hx⟩, hs⟩

theorem single_nil {t : GlobToken} (ht : t ≠ .star) {ts : List GlobToken} :
    ¬Spelled (t :: ts) [] := by
  rw [cons_iff]
  rintro ⟨w, r, hs, hw, -⟩
  obtain ⟨y, rfl, -⟩ := (GlobToken.spells_iff ht).mp hw
  cases hs

theorem star_nil_iff {ts : List GlobToken} : Spelled (.star :: ts) [] ↔ Spelled ts [] := by
  rw [cons_iff]
  constructor
  · rintro ⟨w, r, hs, -, hr⟩
    obtain ⟨rfl, rfl⟩ := List.append_eq_nil_iff.mp hs.symm
    exact hr
  · intro h
    exact ⟨[], [], rfl, List.not_mem_nil, h⟩

/-- **A `*` spells nothing more, or one more character other than `/`.** -/
theorem star_cons_iff {ts : List GlobToken} {x : Char} {s : List Char} :
    Spelled (.star :: ts) (x :: s) ↔
      Spelled ts (x :: s) ∨ (x ≠ '/' ∧ Spelled (.star :: ts) s) := by
  rw [cons_iff, cons_iff]
  constructor
  · rintro ⟨w, r, hs, hw, hr⟩
    cases w with
    | nil =>
      rw [List.nil_append] at hs
      subst hs
      exact .inl hr
    | cons y w =>
      rw [List.cons_append] at hs
      obtain ⟨rfl, rfl⟩ := List.cons.inj hs
      have hw' : '/' ∉ w := fun h => hw (List.mem_cons_of_mem _ h)
      refine .inr ⟨fun h => hw ?_, w, r, rfl, hw', hr⟩
      rw [← h]
      exact List.mem_cons_self
  · rintro (h | ⟨hx, w, r, rfl, hw, hr⟩)
    · exact ⟨[], x :: s, rfl, List.not_mem_nil, h⟩
    · refine ⟨x :: w, r, rfl, ?_, hr⟩
      simp only [GlobToken.Spells, List.mem_cons, not_or]
      exact ⟨fun h => hx h.symm, hw⟩

end Spelled

/-- **The matcher decides what a glob spells.** -/
theorem matchTokens_iff (ts : List GlobToken) (xs : List Char) :
    matchTokens ts xs = true ↔ Spelled ts xs := by
  fun_induction matchTokens ts xs with
  | case1 xs =>
    rw [Spelled.nil_iff]
    simp
  | case2 ts xs ih₂ ih₁ =>
    cases xs with
    | nil => simp [ih₂, Spelled.star_nil_iff]
    | cons x rest =>
      simp only at ih₁
      simp [ih₂, ih₁, Spelled.star_cons_iff]
  | case3 t ts x rest ht ih => simp [Spelled.single_cons_iff ht, ih]
  | case4 t ts ht =>
    simp only [Bool.false_eq_true, false_iff]
    exact Spelled.single_nil ht

end AccessLog

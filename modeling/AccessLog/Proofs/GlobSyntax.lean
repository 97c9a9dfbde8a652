import AccessLog.Proofs.GlobMeaning

/-!
# Reading a glob

A glob is read left to right into tokens (`GlobReads`): a backslash and the character after it
stand for that character; `*` and `?` are wildcards; `[` opens a class, negated by an `!` or `^`
right after it, whose body runs from its first character, whatever that is, to the first `]`
after it; every other character stands for itself. As the first character of a body may be `]`,
`[]]` is the class of `]` and `[!]]` its negation.

Every reading of a glob is the one `globTokens` gives (`GlobReads.eq_globTokens`), and a glob
that `validateGlob` accepts has it (`globReads_globTokens`). Every class `globTokens` reads has
members (`globTokens_cls_ne_nil`), which is what lets the class be written back as a pattern.

## Main statements

* `readClassBody_eq_some_iff`: the body of a class runs from its first character to the first `]`
  after it.
* `GlobReads.eq_globTokens`: a glob has one reading at most, the tokens `globTokens` gives.
* `globReads_globTokens`: a glob that the check accepts reads as its tokens.
-/

namespace AccessLog

/-- How a class opens: with `!` or `^` it is negated. -/
inductive ClassOpening : Bool → List Char → Prop
  | plain : ClassOpening false []
  | bang : ClassOpening true ['!']
  | caret : ClassOpening true ['^']

/-- The tokens a glob reads as, left to right. A class is `[`, its opening, a first character
`x`, the rest of its body up to the first `]`, and that `]`; the first character is read as an
opening whenever it can be. -/
inductive GlobReads : List Char → List GlobToken → Prop
  | nil : GlobReads [] []
  | escape {c : Char} {rest : List Char} {ts : List GlobToken} :
      GlobReads rest ts → GlobReads ('\\' :: c :: rest) (.char c :: ts)
  | star {rest : List Char} {ts : List GlobToken} :
      GlobReads rest ts → GlobReads ('*' :: rest) (.star :: ts)
  | one {rest : List Char} {ts : List GlobToken} :
      GlobReads rest ts → GlobReads ('?' :: rest) (.one :: ts)
  | cls {neg : Bool} {mark : List Char} {x : Char} {body after : List Char} {ts : List GlobToken} :
      ClassOpening neg mark → (mark = [] → x ≠ '!' ∧ x ≠ '^') → ']' ∉ body →
      GlobReads after ts →
      GlobReads ('[' :: (mark ++ x :: (body ++ ']' :: after))) (.cls neg (classUnits (x :: body)) :: ts)
  | char {c : Char} {rest : List Char} {ts : List GlobToken} :
      c ≠ '\\' → c ≠ '*' → c ≠ '?' → c ≠ '[' → GlobReads rest ts → GlobReads (c :: rest) (.char c :: ts)

/-! ## The body of a class -/

theorem skipLeadBracket_of_ne {c : Char} (hc : c ≠ ']') (r : List Char) :
    skipLeadBracket (c :: r) = ([], c :: r) := by
  unfold skipLeadBracket
  split
  · rename_i h
    exact absurd (List.cons.inj h).1 hc
  · rfl

/-- A body with no `]` after its first character is read up to the `]` that follows it. -/
theorem skipLeadBracket_body {x : Char} {body after : List Char} (hb : ']' ∉ body) :
    (skipLeadBracket (x :: (body ++ ']' :: after))).2.dropWhile (· != ']') = ']' :: after ∧
      (skipLeadBracket (x :: (body ++ ']' :: after))).1 ++
        (skipLeadBracket (x :: (body ++ ']' :: after))).2.takeWhile (· != ']') = x :: body := by
  have hall : ∀ a ∈ body, (a != ']') = true := fun a ha => by
    rw [bne_iff_ne]
    rintro rfl
    exact hb ha
  obtain ⟨htake, hdrop⟩ := takeWhile_append_stop hall (x := ']' :: after) (by simp)
  by_cases hx : x = ']'
  · subst hx
    have hs : skipLeadBracket (']' :: (body ++ ']' :: after)) = ([']'], body ++ ']' :: after) := rfl
    rw [hs]
    exact ⟨hdrop, by rw [htake]; rfl⟩
  · have hpass : (x != ']') = true := bne_iff_ne.mpr hx
    rw [skipLeadBracket_of_ne hx]
    dsimp only
    rw [List.dropWhile_cons_of_pos (p := (· != ']')) hpass,
      List.takeWhile_cons_of_pos (p := (· != ']')) hpass, hdrop, htake]
    exact ⟨rfl, rfl⟩

/-- Where the body of a class ends: the first `]` after its first character. -/
theorem skipLeadBracket_split {r after : List Char} {y : Char}
    (hd : (skipLeadBracket r).2.dropWhile (· != ']') = y :: after) :
    ∃ x inner, ']' ∉ inner ∧ r = x :: (inner ++ ']' :: after) := by
  have hy : y = ']' := by
    have h := List.head_dropWhile_not (· != ']') (l := (skipLeadBracket r).2) (by simp [hd])
    simp only [hd, List.head_cons, bne_eq_false_iff_eq] at h
    exact h
  subst hy
  have hnot : ∀ l : List Char, ']' ∉ l.takeWhile (· != ']') := fun l h => by
    simpa using List.mem_takeWhile_imp h
  have hsplit := (List.takeWhile_append_dropWhile (p := (· != ']')) (l := (skipLeadBracket r).2))
  rw [hd] at hsplit
  cases r with
  | nil => simp [skipLeadBracket] at hd
  | cons c r =>
    by_cases hc : c = ']'
    · subst hc
      have hs : skipLeadBracket (']' :: r) = ([']'], r) := rfl
      rw [hs] at hsplit
      dsimp only at hsplit
      exact ⟨']', _, hnot r, by rw [hsplit]⟩
    · rw [skipLeadBracket_of_ne hc] at hsplit
      rw [List.takeWhile_cons_of_pos (by simpa using hc)] at hsplit
      exact ⟨c, _, hnot r, hsplit.symm⟩

theorem skipNegation_opening {mark : List Char} {neg : Bool} {x : Char} {r : List Char}
    (hm : ClassOpening neg mark) (hx : mark = [] → x ≠ '!' ∧ x ≠ '^') :
    skipNegation (mark ++ x :: r) = (neg, x :: r) := by
  cases hm with
  | plain =>
    obtain ⟨h₁, h₂⟩ := hx rfl
    simp [skipNegation, h₁, h₂]
  | bang => rfl
  | caret => rfl

/-- The opening of a class is what `skipNegation` takes away. -/
theorem skipNegation_eq_opening {rest r : List Char} {x : Char} (h : (skipNegation rest).2 = x :: r) :
    ∃ mark, ClassOpening (skipNegation rest).1 mark ∧ (mark = [] → x ≠ '!' ∧ x ≠ '^') ∧
      rest = mark ++ x :: r := by
  cases rest with
  | nil => cases h
  | cons c rest =>
    by_cases hc : c = '!' ∨ c = '^'
    · have hs : skipNegation (c :: rest) = (true, rest) := by simp [skipNegation, hc]
      rw [hs] at h ⊢
      refine ⟨[c], ?_, by simp, by rw [← h]; rfl⟩
      rcases hc with rfl | rfl
      · exact .bang
      · exact .caret
    · have hs : skipNegation (c :: rest) = (false, c :: rest) := by
        simp only [not_or] at hc
        simp [skipNegation, hc]
      rw [hs] at h ⊢
      obtain ⟨rfl, rfl⟩ := List.cons.inj h
      exact ⟨[], .plain, fun _ => not_or.mp hc, rfl⟩

/-- **The body of a class runs from its first character to the first `]` after it**, after an
optional `!` or `^` that negates the class. -/
theorem readClassBody_eq_some_iff {rest body after : List Char} {neg : Bool} :
    readClassBody rest = some (neg, body, after) ↔
      ∃ mark x inner, ClassOpening neg mark ∧ (mark = [] → x ≠ '!' ∧ x ≠ '^') ∧ ']' ∉ inner ∧
        body = x :: inner ∧ rest = mark ++ x :: (inner ++ ']' :: after) := by
  constructor
  · intro h
    unfold readClassBody at h
    dsimp only at h
    split at h
    · cases h
    · rename_i y after' hd
      simp only [Option.some.injEq, Prod.mk.injEq] at h
      obtain ⟨rfl, rfl, rfl⟩ := h
      obtain ⟨x, inner, hb, hr⟩ := skipLeadBracket_split hd
      obtain ⟨mark, hm, hx, hrest⟩ := skipNegation_eq_opening hr
      refine ⟨mark, x, inner, hm, hx, hb, ?_, hrest⟩
      rw [hr]
      exact (skipLeadBracket_body hb).2
  · rintro ⟨mark, x, inner, hm, hx, hb, rfl, rfl⟩
    obtain ⟨hdrop, hbody⟩ := @skipLeadBracket_body x inner after hb
    unfold readClassBody
    dsimp only
    rw [skipNegation_opening hm hx, hdrop]
    dsimp only
    rw [hbody]

/-! ## The classes of a glob -/

/-- The body of a class is never empty: a `]` right after the opening belongs to it. -/
theorem readClassBody_body_ne_nil {rest after : List Char} {neg : Bool} {body : List Char}
    (h : readClassBody rest = some (neg, body, after)) : body ≠ [] := by
  obtain ⟨-, x, inner, -, -, -, rfl, -⟩ := readClassBody_eq_some_iff.mp h
  exact List.cons_ne_nil x inner

theorem classUnits_ne_nil {body : List Char} (h : body ≠ []) : classUnits body ≠ [] := by
  unfold classUnits
  split <;> simp_all

/-- Every class of a glob has members. -/
theorem globTokens_cls_ne_nil (cs : List Char) (neg : Bool) : GlobToken.cls neg [] ∉ globTokens cs := by
  fun_induction globTokens cs with
  | case5 rest h => simp
  | case6 rest neg' body after h _ ih =>
    simp only [List.mem_cons, GlobToken.cls.injEq, not_or]
    exact ⟨fun ⟨_, hu⟩ => classUnits_ne_nil (readClassBody_body_ne_nil h) hu.symm, ih⟩
  | _ => simp_all

/-! ## The reading of a glob -/

/-- A glob that opens with a class the body reader finds is that class, then what follows it. -/
theorem globTokens_cls {rest body after : List Char} {neg : Bool}
    (h : readClassBody rest = some (neg, body, after)) :
    globTokens ('[' :: rest) = .cls neg (classUnits body) :: globTokens after := by
  rw [globTokens.eq_5]
  split
  · rename_i hnone
    rw [h] at hnone
    cases hnone
  · rename_i hsome
    rw [h] at hsome
    cases hsome
    rfl

/-- The check goes on after a class the body reader finds. -/
theorem validateGlob_go_cls {g : String} {rest body after : List Char} {neg : Bool}
    (h : readClassBody rest = some (neg, body, after)) :
    validateGlob.go g ('[' :: rest) = validateGlob.go g after := by
  rw [validateGlob.go.eq_4]
  split
  · rename_i hnone
    rw [h] at hnone
    cases hnone
  · rename_i hsome
    rw [h] at hsome
    cases hsome
    rfl

/-- **A glob has one reading at most**: the tokens `globTokens` gives. -/
theorem GlobReads.eq_globTokens {cs : List Char} {ts : List GlobToken} (h : GlobReads cs ts) :
    ts = globTokens cs := by
  induction h with
  | nil => rw [globTokens.eq_1]
  | escape _ ih => rw [globTokens.eq_2, ih]
  | star _ ih => rw [globTokens.eq_3, ih]
  | one _ ih => rw [globTokens.eq_4, ih]
  | @cls neg mark x body after ts hm hx hb _ ih =>
    have hbody : readClassBody (mark ++ x :: (body ++ ']' :: after)) = some (neg, x :: body, after) :=
      readClassBody_eq_some_iff.mpr ⟨_, _, _, hm, hx, hb, rfl, rfl⟩
    rw [globTokens_cls hbody, ih]
  | char h₁ h₂ h₃ h₄ _ ih => rw [globTokens.eq_6 _ _ (fun _ _ hc _ => h₁ hc) h₂ h₃ h₄, ih]

theorem globReads_go {g : String} (cs : List Char) (h : validateGlob.go g cs = .ok ()) :
    GlobReads cs (globTokens cs) := by
  induction cs using validateGlob.go.induct with
  | case1 =>
    rw [globTokens.eq_1]
    exact .nil
  | case2 =>
    rw [validateGlob.go.eq_2] at h
    cases h
  | case3 c rest ih =>
    rw [validateGlob.go.eq_3] at h
    rw [globTokens.eq_2]
    exact .escape (ih h)
  | case4 rest hnone =>
    rw [validateGlob.go.eq_4] at h
    split at h
    · cases h
    · rename_i hsome
      rw [hnone] at hsome
      cases hsome
  | case5 rest neg body after hsome _ ih =>
    rw [validateGlob_go_cls hsome] at h
    rw [globTokens_cls hsome]
    obtain ⟨mark, x, inner, hm, hx, hb, rfl, rfl⟩ := readClassBody_eq_some_iff.mp hsome
    exact .cls hm hx hb (ih h)
  | case6 c rest h₁ h₂ h₃ ih =>
    rw [validateGlob.go.eq_5 _ _ _ h₁ h₂ h₃] at h
    by_cases hstar : c = '*'
    · subst hstar
      rw [globTokens.eq_3]
      exact .star (ih h)
    by_cases hone : c = '?'
    · subst hone
      rw [globTokens.eq_4]
      exact .one (ih h)
    have hslash : c ≠ '\\' := by
      rintro rfl
      cases rest with
      | nil => exact h₁ rfl rfl
      | cons d rest => exact h₂ d rest rfl rfl
    rw [globTokens.eq_6 _ _ (fun _ _ hc _ => hslash hc) hstar hone h₃]
    exact .char hslash hstar hone h₃ (ih h)

/-- A glob that the check accepts reads as its tokens. -/
theorem globReads_globTokens {g : String} (h : validateGlob g = .ok ()) :
    GlobReads g.toList (globTokens g.toList) :=
  globReads_go g.toList h

end AccessLog

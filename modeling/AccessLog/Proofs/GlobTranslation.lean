import Mathlib.Logic.Relation
import AccessLog.Proofs.GlobSyntax

/-!
# The translator's domain

A glob's pattern text is written by a loop over its positions (`globRound`, `globRounds`) that
does not check the glob: after a lone backslash at the end it reads a place past the end, and on
a class that is never closed it starts over at position zero. The check (`validateGlob.go` on
the glob's rest `cs.drop i`) takes the translator's very steps (`check_follows_round`): where the
translator moves forward the check goes on from the same position, where it reads past the end
the check refuses a trailing escape, and where it goes back to zero the check refuses an
unterminated class.

So the check accepts exactly the globs the translator finishes. On those every round reads in
range and moves forward, and the translator writes `Glob.patternText` (`translation_of_check`);
on a trailing escape it reads past the end (`translation_overruns`); on an unterminated class it
comes back to a position it has been at, so no number of rounds is enough
(`globRounds_of_cycle`).

## Main statements

* `globRound_cases`: what one round does, by the rest of the glob at its position.
* `check_follows_round`: the check takes the translator's steps.
* `translation_of_check`: a glob the check accepts is translated to its pattern text.
* `check_domain_of_translation`: the check accepts exactly the globs the translator finishes.
-/

namespace AccessLog

/-! ## Places and rests -/

theorem drop_eq_cons_of_getElem? {cs : List Char} {k : Nat} {c : Char} (h : cs[k]? = some c) :
    cs.drop k = c :: cs.drop (k + 1) := by
  obtain ⟨hk, rfl⟩ := List.getElem?_eq_some_iff.mp h
  exact List.drop_eq_getElem_cons hk

theorem getElem?_of_drop_eq_cons {cs rest : List Char} {k : Nat} {c : Char}
    (h : cs.drop k = c :: rest) : cs[k]? = some c ∧ cs.drop (k + 1) = rest := by
  have hc : cs[k]? = some c := by
    rw [← Nat.add_zero k, ← List.getElem?_drop, h]
    rfl
  refine ⟨hc, ?_⟩
  have hd := drop_eq_cons_of_getElem? hc
  rw [h] at hd
  exact (List.cons.inj hd).2.symm

/-! ## Where a class ends -/

/-- Where the search for `c` from place `j` stops: nowhere, or at a place `m` holding `c`, the
text before it being the run of other characters. -/
theorem findFrom_cases (cs : List Char) (c : Char) (j : Nat) :
    (findFrom cs c j = -1 ∧ (cs.drop j).dropWhile (· != c) = []) ∨
    ∃ m : Nat, j ≤ m ∧ findFrom cs c j = m ∧ cs[m]? = some c ∧
      (cs.drop j).dropWhile (· != c) = c :: cs.drop (m + 1) ∧
      (cs.drop j).takeWhile (· != c) = (cs.drop j).take (m - j) := by
  unfold findFrom
  cases h : (cs.drop j).idxOf? c with
  | none =>
    have hc := List.idxOf?_eq_none_iff.mp h
    refine .inl ⟨rfl, List.dropWhile_eq_nil_iff.mpr fun x hx => ?_⟩
    rw [bne_iff_ne]
    rintro rfl
    exact hc hx
  | some k =>
    have hf : (cs.drop j).findIdx? (· == c) = some k := h
    obtain ⟨hk, hck, -⟩ := List.findIdx?_eq_some_iff_getElem.mp hf
    have hidx : (cs.drop j).findIdx (fun a => !(a != c)) = k := by
      have hp : (fun a : Char => !(a != c)) = (· == c) := by
        funext a
        simp [bne]
      rw [hp]
      exact (List.findIdx?_eq_some_iff_findIdx_eq.mp hf).2
    refine .inr ⟨j + k, by omega, rfl, ?_, ?_, ?_⟩
    · rw [← List.getElem?_drop, List.getElem?_eq_getElem hk, beq_iff_eq.mp hck]
    · rw [List.dropWhile_eq_drop_findIdx_not, hidx, List.drop_eq_getElem_cons hk, List.drop_drop,
        beq_iff_eq.mp hck, Nat.add_assoc]
    · rw [List.takeWhile_eq_take_findIdx_not, hidx]
      congr 1
      omega

theorem skipNegation_drop (cs : List Char) (i : Nat) :
    skipNegation (cs.drop (i + 1)) = (negatesAt cs (i + 1), cs.drop (bodyStart cs i)) := by
  unfold bodyStart negatesAt
  cases h : cs[i + 1]? with
  | none =>
    simp only [Option.any_none, Bool.false_eq_true, ↓reduceIte]
    rw [List.drop_eq_nil_of_le (List.getElem?_eq_none_iff.mp h)]
    rfl
  | some x =>
    simp only [Option.any_some]
    rw [drop_eq_cons_of_getElem? h]
    by_cases hx : (x == '!' || x == '^') = true
    · simp only [skipNegation, hx, ↓reduceIte]
    · simp only [skipNegation, hx, Bool.false_eq_true, ↓reduceIte]
      rw [drop_eq_cons_of_getElem? h]

theorem skipLeadBracket_drop (cs : List Char) (k : Nat) :
    skipLeadBracket (cs.drop k) =
      (if cs[k]? = some ']' then [']'] else [],
        cs.drop (if cs[k]? = some ']' then k + 1 else k)) := by
  by_cases h : cs[k]? = some ']'
  · rw [if_pos h, if_pos h, drop_eq_cons_of_getElem? h]
    rfl
  · rw [if_neg h, if_neg h]
    cases hd : cs.drop k with
    | nil => rfl
    | cons c r =>
      have hc : c ≠ ']' := by
        rintro rfl
        exact h (getElem?_of_drop_eq_cons hd).1
      exact skipLeadBracket_of_ne hc r

/-- A class the translator finds closed at place `m` is the class the check reads: its body runs
from the body's start up to `m`, and the glob goes on after `m`. -/
theorem readClassBody_of_close {cs : List Char} {i m : Nat}
    (h : classClose cs (bodyStart cs i) = m) :
    bodyStart cs i ≤ m ∧ m < cs.length ∧ readClassBody (cs.drop (i + 1)) =
      some (negatesAt cs (i + 1), (cs.drop (bodyStart cs i)).take (m - bodyStart cs i),
        cs.drop (m + 1)) := by
  unfold classClose at h
  unfold readClassBody
  rw [skipNegation_drop]
  dsimp only
  rw [skipLeadBracket_drop]
  rcases findFrom_cases cs ']' (if cs[bodyStart cs i]? = some ']' then bodyStart cs i + 1
    else bodyStart cs i) with ⟨hf, -⟩ | ⟨m', hjm, hf, hm, hdrop, htake⟩
  · rw [hf] at h
    omega
  · obtain rfl : m = m' := by omega
    refine ⟨by split at hjm <;> omega, (List.getElem?_eq_some_iff.mp hm).1, ?_⟩
    rw [hdrop, htake]
    by_cases hb : cs[bodyStart cs i]? = some ']'
    · rw [if_pos hb] at hjm ⊢
      rw [if_pos hb, drop_eq_cons_of_getElem? hb,
        show m - bodyStart cs i = m - (bodyStart cs i + 1) + 1 by omega, List.take_succ_cons]
      rfl
    · rw [if_neg hb, if_neg hb]
      rfl

/-- A class the translator finds no `]` for is one the check finds never closed. -/
theorem readClassBody_of_unclosed {cs : List Char} {i : Nat}
    (h : classClose cs (bodyStart cs i) = -1) : readClassBody (cs.drop (i + 1)) = none := by
  unfold classClose at h
  unfold readClassBody
  rw [skipNegation_drop]
  dsimp only
  rw [skipLeadBracket_drop]
  rcases findFrom_cases cs ']' (if cs[bodyStart cs i]? = some ']' then bodyStart cs i + 1
    else bodyStart cs i) with ⟨-, hdrop⟩ | ⟨m, -, hf, -⟩
  · rw [hdrop]
  · rw [hf] at h
    omega

/-! ## The text of a class body -/

/-- A body character that does not escape the next one is a unit of its own: a range mark for a
`-`, and a plain character otherwise. -/
theorem classUnits_cons_of_not_escape {ch : Char} {rest : List Char}
    (h : ch = '\\' → rest = []) :
    classUnits (ch :: rest) = (if ch = '-' then .dash else .plain ch) :: classUnits rest := by
  by_cases hd : ch = '-'
  · subst hd
    rw [classUnits.eq_3, if_pos rfl]
  · rw [if_neg hd, classUnits.eq_4 _ _ (fun _ _ hc hr => by simp [h hc] at hr) hd]

/-- The translator's pass over a class body closed at place `close` writes the pattern text of
the body's units, reading only places before `close`. -/
theorem classText_eq {cs : List Char} {close : Nat} (hc : close ≤ cs.length) (k : Nat)
    (hk : k ≤ close) : classText cs close k = some
      (String.join ((classUnits ((cs.drop k).take (close - k))).map ClassUnit.patternText)) := by
  obtain ⟨n, hn⟩ : ∃ n, n = close - k := ⟨_, rfl⟩
  induction n using Nat.strong_induction_on generalizing k with
  | _ n ih =>
    rw [classText.eq_1]
    by_cases hlt : k < close
    · have hch : cs[k]? = some cs[k] := List.getElem?_eq_getElem (by omega)
      rw [dif_pos (by exact_mod_cast hlt), hch, Option.bind_some, drop_eq_cons_of_getElem? hch,
        show close - k = close - (k + 1) + 1 by omega, List.take_succ_cons]
      by_cases hesc : cs[k] = '\\' ∧ k + 1 < close
      · have hd : cs[k + 1]? = some cs[k + 1] := List.getElem?_eq_getElem (by omega)
        rw [if_pos (by exact_mod_cast hesc), hd, Option.bind_some, ih (close - (k + 2)) (by omega)
          (k + 2) (by omega) rfl, drop_eq_cons_of_getElem? hd,
          show close - (k + 1) = close - (k + 2) + 1 by omega, List.take_succ_cons, hesc.1,
          classUnits.eq_2]
        simp [ClassUnit.patternText]
      · have hone : cs[k] = '\\' → (cs.drop (k + 1)).take (close - (k + 1)) = [] := by
          intro he
          have hlast : ¬ k + 1 < close := fun h => hesc ⟨he, h⟩
          rw [show close - (k + 1) = 0 by omega, List.take_zero]
        rw [if_neg (by exact_mod_cast hesc), ih (close - (k + 1)) (by omega) (k + 1) (by omega) rfl,
          classUnits_cons_of_not_escape hone]
        by_cases hdash : cs[k] = '-' <;> simp [hdash, ClassUnit.patternText]
    · obtain rfl : k = close := by omega
      rw [dif_neg (by simp)]
      simp [classUnits]

/-! ## One round -/

theorem globRound_of_drop_nil {cs : List Char} {i : Nat} (h : cs.drop i = []) :
    globRound cs i = .stop := by
  have hn : cs[i]? = none := List.getElem?_eq_none_iff.mpr (List.drop_eq_nil_iff.mp h)
  simp [globRound, hn]

/-- A class the translator finds closed at place `m` takes the round past `m`, writing the
class's pattern text. -/
theorem globRound_of_close {cs : List Char} {i m : Nat} (hi : cs[i]? = some '[')
    (h : classClose cs (bodyStart cs i) = m) :
    globRound cs i = .next (GlobToken.cls (negatesAt cs (i + 1))
      (classUnits ((cs.drop (bodyStart cs i)).take (m - bodyStart cs i)))).patternText (m + 1) := by
  obtain ⟨hsm, hm, -⟩ := readClassBody_of_close h
  have ht := @classText_eq cs m (by omega) _ hsm
  simp [globRound, hi, h, ht, GlobToken.patternText]

/-- A class the translator finds no `]` for sends the round back to position zero. -/
theorem globRound_of_unclosed {cs : List Char} {i : Nat} (hi : cs[i]? = some '[')
    (h : classClose cs (bodyStart cs i) = -1) : ∃ t, globRound cs i = .next t 0 := by
  have ht : classText cs (-1) (bodyStart cs i) = some "" := by
    rw [classText.eq_1, dif_neg (by omega)]
  simp [globRound, hi, h, ht]

theorem lt_bodyStart (cs : List Char) (i : Nat) : i < bodyStart cs i := by
  unfold bodyStart
  split <;> omega

/-- What the round at position `i` does, by the rest of the glob there. -/
inductive RoundShape (cs : List Char) (i : Nat) : Prop
  /-- Past the end, the loop stops. -/
  | stop : cs.drop i = [] → globRound cs i = .stop → RoundShape cs i
  /-- A final backslash makes the round read past the end. -/
  | overrun : cs.drop i = ['\\'] → globRound cs i = .overrun → RoundShape cs i
  /-- An escape is read as its second character. -/
  | escape (d : Char) : cs.drop i = '\\' :: d :: cs.drop (i + 2) →
      globRound cs i = .next (GlobToken.char d).patternText (i + 2) → RoundShape cs i
  /-- A class that is closed is read as the class the check reads, up to where the check goes
  on. -/
  | cls (neg : Bool) (body : List Char) (j : Nat) : i < j → cs.drop i = '[' :: cs.drop (i + 1) →
      readClassBody (cs.drop (i + 1)) = some (neg, body, cs.drop j) →
      globRound cs i = .next (GlobToken.cls neg (classUnits body)).patternText j → RoundShape cs i
  /-- A class that is never closed sends the loop back to position zero. -/
  | unclosed (t : String) : cs.drop i = '[' :: cs.drop (i + 1) →
      readClassBody (cs.drop (i + 1)) = none → globRound cs i = .next t 0 → RoundShape cs i
  /-- Any other character is read as one token. -/
  | plain (c : Char) (tok : GlobToken) : c ≠ '\\' → c ≠ '[' →
      cs.drop i = c :: cs.drop (i + 1) →
      globTokens (c :: cs.drop (i + 1)) = tok :: globTokens (cs.drop (i + 1)) →
      globRound cs i = .next tok.patternText (i + 1) → RoundShape cs i

/-- **What a round does**, in terms of the rest of the glob at its position. -/
theorem roundShape (cs : List Char) (i : Nat) : RoundShape cs i := by
  cases hi : cs[i]? with
  | none =>
    have hd : cs.drop i = [] := List.drop_eq_nil_of_le (List.getElem?_eq_none_iff.mp hi)
    exact .stop hd (globRound_of_drop_nil hd)
  | some c =>
    have hd := drop_eq_cons_of_getElem? hi
    by_cases hesc : c = '\\'
    · subst hesc
      cases hn : cs[i + 1]? with
      | none =>
        have hd' : cs.drop (i + 1) = [] := List.drop_eq_nil_of_le (List.getElem?_eq_none_iff.mp hn)
        exact .overrun (by rw [hd, hd']) (by simp [globRound, hi, hn])
      | some d =>
        exact .escape d (by rw [hd, drop_eq_cons_of_getElem? hn])
          (by simp [globRound, hi, hn, GlobToken.patternText])
    by_cases hcls : c = '['
    · subst hcls
      rcases findFrom_cases cs ']' (if cs[bodyStart cs i]? = some ']' then bodyStart cs i + 1
        else bodyStart cs i) with ⟨hf, -⟩ | ⟨m, -, hf, -⟩
      · have hc : classClose cs (bodyStart cs i) = -1 := hf
        obtain ⟨t, ht⟩ := globRound_of_unclosed hi hc
        exact .unclosed t hd (readClassBody_of_unclosed hc) ht
      · have hc : classClose cs (bodyStart cs i) = m := hf
        obtain ⟨hsm, -, hb⟩ := readClassBody_of_close hc
        have hij : i < m + 1 := by
          have := lt_bodyStart cs i
          omega
        exact .cls _ _ (m + 1) hij hd hb (globRound_of_close hi hc)
    by_cases hstar : c = '*'
    · subst hstar
      exact .plain '*' .star (by decide) (by decide) hd (globTokens.eq_3 _)
        (by simp [globRound, hi, GlobToken.patternText])
    by_cases hone : c = '?'
    · subst hone
      exact .plain '?' .one (by decide) (by decide) hd (globTokens.eq_4 _)
        (by simp [globRound, hi, GlobToken.patternText])
    exact .plain c (.char c) hesc hcls hd
      (globTokens.eq_6 _ _ (fun _ _ h _ => hesc h) hstar hone hcls)
      (by simp [globRound, hi, hesc, hstar, hone, hcls, GlobToken.patternText])

/-! ## The check takes the translator's steps -/

/-- The check refuses a class it finds never closed. -/
theorem validateGlob_go_unclosed {g : String} {rest : List Char} (h : readClassBody rest = none) :
    validateGlob.go g ('[' :: rest) = .error (.glob (.str g) "unterminated character class") := by
  rw [validateGlob.go.eq_4]
  split
  · rfl
  · rename_i hsome
    rw [h] at hsome
    cases hsome

/-- The check passes, or refuses a trailing escape or an unterminated class. -/
theorem validateGlob_go_cases (g : String) (cs : List Char) :
    validateGlob.go g cs = .ok () ∨
      validateGlob.go g cs = .error (.glob (.str g) "trailing escape character") ∨
      validateGlob.go g cs = .error (.glob (.str g) "unterminated character class") := by
  induction cs using validateGlob.go.induct with
  | case1 => exact .inl (validateGlob.go.eq_1 g)
  | case2 => exact .inr (.inl (validateGlob.go.eq_2 g))
  | case3 c rest ih => rwa [validateGlob.go.eq_3]
  | case4 rest hnone => exact .inr (.inr (validateGlob_go_unclosed hnone))
  | case5 rest neg body after hsome _ ih => rwa [validateGlob_go_cls hsome]
  | case6 c rest h₁ h₂ h₃ ih => rwa [validateGlob.go.eq_5 _ _ _ h₁ h₂ h₃]

/-- The check of the glob's rest from position `i` takes the step that the translator's round at
`i` takes. -/
structure CheckFollows (g : String) (cs : List Char) (i : Nat) : Prop where
  /-- Past the end, the check passes. -/
  stop : globRound cs i = .stop → validateGlob.go g (cs.drop i) = .ok ()
  /-- Where the round reads past the end, the check refuses a trailing escape. -/
  overrun : globRound cs i = .overrun →
    validateGlob.go g (cs.drop i) = .error (.glob (.str g) "trailing escape character")
  /-- Where the round moves forward, the check goes on from the same position; a round that does
  not move forward goes back to the start, where the check refuses an unterminated class. -/
  next : ∀ t j, globRound cs i = .next t j →
    (i < j ∧ validateGlob.go g (cs.drop i) = validateGlob.go g (cs.drop j)) ∨
    (j = 0 ∧ validateGlob.go g (cs.drop i) =
      .error (.glob (.str g) "unterminated character class"))

namespace CheckFollows

variable {g : String} {cs : List Char} {i : Nat}

theorem of_stop (hr : globRound cs i = .stop) (h : validateGlob.go g (cs.drop i) = .ok ()) :
    CheckFollows g cs i where
  stop _ := h
  overrun h' := by rw [hr] at h'; cases h'
  next _ _ h' := by rw [hr] at h'; cases h'

theorem of_overrun (hr : globRound cs i = .overrun)
    (h : validateGlob.go g (cs.drop i) = .error (.glob (.str g) "trailing escape character")) :
    CheckFollows g cs i where
  stop h' := by rw [hr] at h'; cases h'
  overrun _ := h
  next _ _ h' := by rw [hr] at h'; cases h'

theorem of_next {t : String} {j : Nat} (hr : globRound cs i = .next t j)
    (h : (i < j ∧ validateGlob.go g (cs.drop i) = validateGlob.go g (cs.drop j)) ∨
      (j = 0 ∧ validateGlob.go g (cs.drop i) =
        .error (.glob (.str g) "unterminated character class"))) :
    CheckFollows g cs i where
  stop h' := by rw [hr] at h'; cases h'
  overrun h' := by rw [hr] at h'; cases h'
  next t' j' h' := by
    rw [hr] at h'
    cases h'
    exact h

end CheckFollows

/-- **The check takes the translator's steps**: on the rest from every position it does what the
translator's round there does. -/
theorem check_follows_round (g : String) (cs : List Char) (i : Nat) : CheckFollows g cs i := by
  cases roundShape cs i with
  | stop hd hr => exact .of_stop hr (by rw [hd, validateGlob.go.eq_1])
  | overrun hd hr => exact .of_overrun hr (by rw [hd, validateGlob.go.eq_2])
  | escape d hd hr => exact .of_next hr (.inl ⟨by omega, by rw [hd, validateGlob.go.eq_3]⟩)
  | cls neg body j hij hd hb hr =>
    exact .of_next hr (.inl ⟨hij, by rw [hd, validateGlob_go_cls hb]⟩)
  | unclosed t hd hb hr =>
    exact .of_next hr (.inr ⟨rfl, by rw [hd, validateGlob_go_unclosed hb]⟩)
  | plain c tok h₁ h₂ hd _ hr =>
    refine .of_next hr (.inl ⟨by omega, ?_⟩)
    rw [hd, validateGlob.go.eq_5 _ _ _ (fun h _ => h₁ h) (fun _ _ h _ => h₁ h) h₂]

/-- On a rest the check accepts, a round inside the glob moves forward over one token of the
glob, to a rest the check accepts. -/
theorem globRound_forward {g : String} {cs : List Char} {i : Nat}
    (hv : validateGlob.go g (cs.drop i) = .ok ()) (hi : i < cs.length) :
    ∃ tok j, i < j ∧ globRound cs i = .next tok.patternText j ∧
      globTokens (cs.drop i) = tok :: globTokens (cs.drop j) ∧
      validateGlob.go g (cs.drop j) = .ok () := by
  cases roundShape cs i with
  | stop hd _ => exact absurd (List.drop_eq_nil_iff.mp hd) (by omega)
  | overrun hd _ =>
    rw [hd, validateGlob.go.eq_2] at hv
    cases hv
  | escape d hd hr =>
    rw [hd, validateGlob.go.eq_3] at hv
    exact ⟨.char d, i + 2, by omega, hr, by rw [hd, globTokens.eq_2], hv⟩
  | cls neg body j hij hd hb hr =>
    rw [hd, validateGlob_go_cls hb] at hv
    exact ⟨_, j, hij, hr, by rw [hd, globTokens_cls hb], hv⟩
  | unclosed t hd hb _ =>
    rw [hd, validateGlob_go_unclosed hb] at hv
    cases hv
  | plain c tok h₁ h₂ hd ht hr =>
    rw [hd, validateGlob.go.eq_5 _ _ _ (fun h _ => h₁ h) (fun _ _ h _ => h₁ h) h₂] at hv
    exact ⟨tok, i + 1, by omega, hr, by rw [hd, ht], hv⟩

/-- On a rest the check refuses, the round reads past the end for a trailing escape, moves
forward to a rest refused the same way, or goes back to position zero for an unterminated
class. -/
theorem globRound_of_go_error {g : String} {cs : List Char} {i : Nat} {e : Error}
    (hv : validateGlob.go g (cs.drop i) = .error e) :
    (globRound cs i = .overrun ∧ e = .glob (.str g) "trailing escape character") ∨
    (∃ t j, globRound cs i = .next t j ∧ i < j ∧ validateGlob.go g (cs.drop j) = .error e) ∨
    (∃ t, globRound cs i = .next t 0 ∧ e = .glob (.str g) "unterminated character class") := by
  have hf := check_follows_round g cs i
  rcases hr : globRound cs i with _ | _ | ⟨t, j⟩
  · rw [hf.stop hr] at hv
    cases hv
  · rw [hf.overrun hr] at hv
    exact .inl ⟨rfl, (Except.error.inj hv).symm⟩
  · rcases hf.next t j hr with ⟨hij, heq⟩ | ⟨rfl, herr⟩
    · exact .inr (.inl ⟨t, j, rfl, hij, heq ▸ hv⟩)
    · rw [herr] at hv
      exact .inr (.inr ⟨t, rfl, (Except.error.inj hv).symm⟩)

/-! ## Runs of the translator -/

/-- The translator's round at `i` goes on at `j`. -/
def RoundStep (cs : List Char) (i j : Nat) : Prop :=
  ∃ t, globRound cs i = .next t j

/-- The translator finishes the glob, having written `out`. -/
def TranslationEnds (cs : List Char) (out : String) : Prop :=
  ∃ fuel, globRounds cs fuel 0 = some (.ok out)

section Rounds

variable {cs : List Char} {i j fuel : Nat} {t : String}

theorem globRounds_succ_stop (h : globRound cs i = .stop) :
    globRounds cs (fuel + 1) i = some (.ok "") := by
  rw [globRounds, h]

theorem globRounds_succ_overrun (h : globRound cs i = .overrun) :
    globRounds cs (fuel + 1) i = some (.error indexFault) := by
  rw [globRounds, h]

theorem globRounds_succ_next (h : globRound cs i = .next t j) :
    globRounds cs (fuel + 1) i = (globRounds cs fuel j).map fun r => r.map (t ++ ·) := by
  rw [globRounds, h]

/-- A run that finishes keeps its answer with more rounds. -/
theorem globRounds_mono {r : Except Error String} (h : globRounds cs fuel i = some r) :
    ∀ {fuel'}, fuel ≤ fuel' → globRounds cs fuel' i = some r := by
  induction fuel generalizing i r with
  | zero => cases h
  | succ fuel ih =>
    intro fuel' hle
    obtain ⟨fuel', rfl⟩ : ∃ f, fuel' = f + 1 := ⟨fuel' - 1, by omega⟩
    rcases hr : globRound cs i with _ | _ | ⟨t, j⟩
    · rw [globRounds_succ_stop hr] at h ⊢
      exact h
    · rw [globRounds_succ_overrun hr] at h ⊢
      exact h
    · rw [globRounds_succ_next hr] at h ⊢
      obtain ⟨r', hr', rfl⟩ := Option.map_eq_some_iff.mp h
      rw [ih hr' (by omega)]
      rfl

/-- Two finished runs from one position give one answer. -/
theorem globRounds_unique {fuel' : Nat} {r r' : Except Error String}
    (h : globRounds cs fuel i = some r) (h' : globRounds cs fuel' i = some r') : r = r' := by
  have h₁ := globRounds_mono h (Nat.le_max_left fuel fuel')
  rw [globRounds_mono h' (Nat.le_max_right fuel fuel')] at h₁
  exact (Option.some.inj h₁).symm

/-- A run that finishes from `i` finishes, with fewer rounds, from the position after `i`. -/
theorem globRounds_of_step {r : Except Error String} (hs : RoundStep cs i j)
    (h : globRounds cs fuel i = some r) :
    ∃ fuel' r', fuel' < fuel ∧ globRounds cs fuel' j = some r' := by
  obtain ⟨t, ht⟩ := hs
  cases fuel with
  | zero => cases h
  | succ fuel =>
    rw [globRounds_succ_next ht] at h
    obtain ⟨r', hr', -⟩ := Option.map_eq_some_iff.mp h
    exact ⟨fuel, r', by omega, hr'⟩

/-- A run that finishes from `i` finishes, with fewer rounds, from every position the translator
goes on to from `i`. -/
theorem globRounds_of_transGen {r : Except Error String} (hs : Relation.TransGen (RoundStep cs) i j)
    (h : globRounds cs fuel i = some r) :
    ∃ fuel' r', fuel' < fuel ∧ globRounds cs fuel' j = some r' := by
  induction hs with
  | single hs => exact globRounds_of_step hs h
  | tail _ hs ih =>
    obtain ⟨f₁, r₁, hlt₁, h₁⟩ := ih
    obtain ⟨f₂, r₂, hlt₂, h₂⟩ := globRounds_of_step hs h₁
    exact ⟨f₂, r₂, by omega, h₂⟩

/-- **A translator that comes back to a position never ends** from it: no number of rounds is
enough. -/
theorem globRounds_of_cycle (hs : Relation.TransGen (RoundStep cs) i i) (fuel : Nat) :
    globRounds cs fuel i = none := by
  induction fuel using Nat.strong_induction_on with
  | _ fuel ih =>
    cases hr : globRounds cs fuel i with
    | none => rfl
    | some r =>
      obtain ⟨fuel', r', hlt, hr'⟩ := globRounds_of_transGen hs hr
      rw [ih fuel' hlt] at hr'
      cases hr'

end Rounds

/-! ## What the check's answer says about the translator -/

section Check

variable {g : String} {cs : List Char}

/-- A position the check's rest passes from is inside the glob unless the rest is empty. -/
theorem lt_length_of_go_error {i : Nat} {e : Error}
    (hv : validateGlob.go g (cs.drop i) = .error e) : i < cs.length := by
  by_contra hi
  rw [List.drop_eq_nil_of_le (by omega), validateGlob.go.eq_1] at hv
  cases hv

/-- From a rest the check accepts, the translator finishes and writes the pattern text of the
rest's tokens. -/
theorem globRounds_of_check (i : Nat) (hv : validateGlob.go g (cs.drop i) = .ok ()) :
    ∃ fuel, globRounds cs fuel i =
      some (.ok (String.join ((globTokens (cs.drop i)).map GlobToken.patternText))) := by
  obtain ⟨n, hn⟩ : ∃ n, n = cs.length - i := ⟨_, rfl⟩
  induction n using Nat.strong_induction_on generalizing i with
  | _ n ih =>
    by_cases hi : i < cs.length
    · obtain ⟨tok, j, hij, hr, ht, hv'⟩ := globRound_forward hv hi
      obtain ⟨fuel, hf⟩ := ih (cs.length - j) (by omega) j hv' rfl
      refine ⟨fuel + 1, ?_⟩
      rw [globRounds_succ_next hr, hf, ht]
      simp [Except.map]
    · have hd : cs.drop i = [] := List.drop_eq_nil_of_le (by omega)
      refine ⟨1, ?_⟩
      rw [globRounds_succ_stop (globRound_of_drop_nil hd), hd, globTokens.eq_1]
      rfl

/-- From a rest the check refuses for a trailing escape, the translator reads past the end. -/
theorem globRounds_of_trailing (i : Nat)
    (hv : validateGlob.go g (cs.drop i) = .error (.glob (.str g) "trailing escape character")) :
    ∃ fuel, globRounds cs fuel i = some (.error indexFault) := by
  obtain ⟨n, hn⟩ : ∃ n, n = cs.length - i := ⟨_, rfl⟩
  induction n using Nat.strong_induction_on generalizing i with
  | _ n ih =>
    have hi := lt_length_of_go_error hv
    rcases globRound_of_go_error hv with ⟨hr, -⟩ | ⟨t, j, hr, hij, hv'⟩ | ⟨t, -, he⟩
    · exact ⟨1, globRounds_succ_overrun hr⟩
    · obtain ⟨fuel, hfuel⟩ := ih (cs.length - j) (by omega) j hv' rfl
      refine ⟨fuel + 1, ?_⟩
      rw [globRounds_succ_next hr, hfuel]
      rfl
    · simp at he

/-- From a rest the check refuses for an unterminated class, the translator moves forward to a
position whose round sends it back to position zero. -/
theorem reaches_reset_of_unclosed (i : Nat)
    (hv : validateGlob.go g (cs.drop i) = .error (.glob (.str g) "unterminated character class")) :
    ∃ p t, Relation.ReflTransGen (RoundStep cs) i p ∧ globRound cs p = .next t 0 := by
  obtain ⟨n, hn⟩ : ∃ n, n = cs.length - i := ⟨_, rfl⟩
  induction n using Nat.strong_induction_on generalizing i with
  | _ n ih =>
    have hi := lt_length_of_go_error hv
    rcases globRound_of_go_error hv with ⟨-, he⟩ | ⟨t, j, hr, hij, hv'⟩ | ⟨t, hr, -⟩
    · simp at he
    · obtain ⟨p, t', hp, ht'⟩ := ih (cs.length - j) (by omega) j hv' rfl
      exact ⟨p, t', .head ⟨t, hr⟩ hp, ht'⟩
    · exact ⟨i, t, .refl, hr⟩

/-- On a glob the check accepts, the rest from every position the translator reaches is
accepted too. -/
theorem check_of_reaches (hv : validateGlob g = .ok ()) {i : Nat}
    (h : Relation.ReflTransGen (RoundStep g.toList) 0 i) :
    validateGlob.go g (g.toList.drop i) = .ok () := by
  induction h with
  | refl => exact hv
  | tail _ hs ih =>
    obtain ⟨t, hr⟩ := hs
    rcases (check_follows_round g g.toList _).next t _ hr with ⟨-, heq⟩ | ⟨-, herr⟩
    · rw [← heq]
      exact ih
    · rw [herr] at ih
      cases ih

end Check

/-! ## The check characterises the translator's domain -/

section Domain

variable {g : String}

/-- **A glob the check accepts is translated to its pattern text.** -/
theorem translation_of_check (hv : validateGlob g = .ok ()) :
    TranslationEnds g.toList (Glob.patternText g) :=
  globRounds_of_check (g := g) 0 hv

/-- On a glob the check accepts, every round the translator comes to reads in range, and ends
the loop or moves forward. -/
theorem rounds_advance_of_check (hv : validateGlob g = .ok ()) {i : Nat}
    (h : Relation.ReflTransGen (RoundStep g.toList) 0 i) :
    globRound g.toList i = .stop ∨ ∃ t j, globRound g.toList i = .next t j ∧ i < j := by
  have hc := check_of_reaches hv h
  by_cases hi : i < g.toList.length
  · obtain ⟨tok, j, hij, hr, -, -⟩ := globRound_forward hc hi
    exact .inr ⟨_, j, hr, hij⟩
  · exact .inl (globRound_of_drop_nil (List.drop_eq_nil_of_le (by omega)))

/-- On a glob that ends in a lone backslash, the translator reads past the end. -/
theorem translation_overruns
    (hv : validateGlob g = .error (.glob (.str g) "trailing escape character")) :
    ∃ fuel, globRounds g.toList fuel 0 = some (.error indexFault) :=
  globRounds_of_trailing (g := g) 0 hv

/-- On a glob with an unterminated class, the translator goes back to position zero and never
ends. -/
theorem translation_loops
    (hv : validateGlob g = .error (.glob (.str g) "unterminated character class")) :
    (∃ p t, Relation.ReflTransGen (RoundStep g.toList) 0 p ∧
      globRound g.toList p = .next t 0) ∧ ∀ fuel, globRounds g.toList fuel 0 = none := by
  obtain ⟨p, t, hp, hr⟩ := reaches_reset_of_unclosed (g := g) 0 hv
  exact ⟨⟨p, t, hp, hr⟩, globRounds_of_cycle (.tail' hp ⟨t, hr⟩)⟩

example : globRounds "[ab".toList 10 0 = none := by decide +kernel

/-- The check accepts exactly the globs the translator finishes. -/
theorem check_iff_translation_ends :
    validateGlob g = .ok () ↔ ∃ out, TranslationEnds g.toList out := by
  constructor
  · intro hv
    exact ⟨_, translation_of_check hv⟩
  · rintro ⟨out, fuel, hend⟩
    rcases validateGlob_go_cases g g.toList with hv | hv | hv
    · exact hv
    · obtain ⟨fuel', hover⟩ := translation_overruns hv
      cases globRounds_unique hend hover
    · rw [(translation_loops hv).2 fuel] at hend
      cases hend

/-- **The check characterises the translator's domain.** The check takes the translator's steps;
it accepts exactly the globs the translator finishes, on which every round reads in range and
moves forward; on a trailing escape the translator reads past the end, and on an unterminated
class it goes back to position zero and never ends. -/
theorem check_domain_of_translation (g : String) :
    (∀ i, CheckFollows g g.toList i) ∧
    (validateGlob g = .ok () ↔ ∃ out, TranslationEnds g.toList out) ∧
    (validateGlob g = .ok () → ∀ i, Relation.ReflTransGen (RoundStep g.toList) 0 i →
      globRound g.toList i = .stop ∨ ∃ t j, globRound g.toList i = .next t j ∧ i < j) ∧
    (validateGlob g = .error (.glob (.str g) "trailing escape character") →
      ∃ fuel, globRounds g.toList fuel 0 = some (.error indexFault)) ∧
    (validateGlob g = .error (.glob (.str g) "unterminated character class") →
      (∃ p t, Relation.ReflTransGen (RoundStep g.toList) 0 p ∧
        globRound g.toList p = .next t 0) ∧ ∀ fuel, globRounds g.toList fuel 0 = none) :=
  ⟨check_follows_round g g.toList, check_iff_translation_ends,
    fun hv _ h => rounds_advance_of_check hv h, translation_overruns, translation_loops⟩

end Domain

end AccessLog

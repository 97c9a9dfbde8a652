import AccessLog.Proofs.GlobSyntax

/-!
# The pattern text of a glob

Before a name is matched against a glob, the glob is written as a pattern text
(`Glob.patternText`) and that text is compiled. The text is a run of tokens of the pattern
reader: a special character escaped with a backslash and any other character plain, `[^/]*` for
`*`, `[^/]` for `?`, and a class written with its dashes plain and its other members as single
tokens (`GlobToken.patternTokens`). No token of it is a plain backslash, so the reader takes the
text back as exactly these tokens (`advance_ahead`).

Read token by token, the text holds nothing but characters, classes and repetitions of one class,
and the only check that can fail is the one of a class range: the reader refuses a range whose
upper end lies below its lower end. So the text compiles exactly when no class of the glob has such
a range (`compile_patternText`), and then into one node for each token of the glob
(`GlobToken.ReadsAs`): a node taking the characters the token accepts for a character, a `?` or a
class, and a greedy repetition of a node taking any character but `/` for a `*`. The members a
class reads as hold exactly the characters of its ranges (`readClassItems_units`).

The reader is followed by one predicate, `Yields`: a read either refuses, when a given condition
holds, or returns a result with the reader holding the tokens that remain, its text, flags, groups
and conditional references untouched.

## Main statements

* `readClassItems_units`: the reader reads a class's members range by range, refusing a
  backwards one.
* `readPieces_globTokens`: the reader reads the tokens of a glob into the nodes they read as,
  refusing a backwards range.
* `compile_patternText`: the pattern text of a glob compiles exactly when no class of the glob has a
  backwards range, into the nodes of its tokens.
-/

namespace AccessLog

open Regex

/-! ## The tokens of the pattern text -/

namespace Regex

/-- The characters a token is written with. -/
def Token.chars : Token → List Char
  | .plain c => [c]
  | .escaped c => ['\\', c]

/-- The text written by a list of tokens. -/
def tokensText (ts : List Token) : List Char := ts.flatMap Token.chars

@[simp] theorem tokensText_nil : tokensText [] = [] := rfl

@[simp] theorem tokensText_cons (t : Token) (ts : List Token) :
    tokensText (t :: ts) = t.chars ++ tokensText ts := by
  simp [tokensText]

end Regex

/-- The token a character is written as in pattern text: escaped when it is special. -/
def escapedToken (c : Char) : Token :=
  if specialChars.contains c then .escaped c else .plain c

/-- The token a member of a class is written as. -/
def ClassUnit.token : ClassUnit → Token
  | .dash => .plain '-'
  | .plain c => escapedToken c

/-- The tokens the pattern text of a glob token is written with. -/
def GlobToken.patternTokens : GlobToken → List Token
  | .char c => [escapedToken c]
  | .star => [.plain '[', .plain '^', .plain '/', .plain ']', .plain '*']
  | .one => [.plain '[', .plain '^', .plain '/', .plain ']']
  | .cls neg units =>
    .plain '[' :: ((if neg then [.plain '^'] else []) ++ units.map ClassUnit.token ++ [.plain ']'])

theorem escapeForPattern_toList (c : Char) :
    (escapeForPattern c).toList = (escapedToken c).chars := by
  unfold escapeForPattern escapedToken
  split <;> simp [Token.chars]

theorem ClassUnit.patternText_toList (u : ClassUnit) : u.patternText.toList = u.token.chars := by
  cases u <;> simp [ClassUnit.patternText, ClassUnit.token, escapeForPattern_toList, Token.chars]

theorem GlobToken.patternText_toList (t : GlobToken) :
    t.patternText.toList = tokensText t.patternTokens := by
  cases t with
  | char c => simp [patternText, patternTokens, escapeForPattern_toList]
  | star => rfl
  | one => rfl
  | cls neg units =>
    cases neg <;> simp [patternText, patternTokens, String.toList_join, tokensText,
      List.flatMap_map, ClassUnit.patternText_toList, Token.chars]

/-- The pattern text of a glob is written with the tokens of the glob's tokens. -/
theorem Glob.patternText_toList (g : String) :
    (Glob.patternText g).toList =
      tokensText ((globTokens g.toList).flatMap GlobToken.patternTokens) := by
  simp only [Glob.patternText, String.toList_join, List.flatMap_map, tokensText,
    List.flatMap_assoc, GlobToken.patternText_toList]

/-! ## Reading tokens back -/

namespace Regex

variable {α β : Type} {s s' : ReadState} {t : Token} {ts : List Token}

theorem ReadM.bind_ok {x : ReadM α} {f : α → ReadM β} {a : α} (h : x s = .ok (a, s')) :
    (x >>= f) s = f a s' := by
  show Except.bind (x s) _ = _
  rw [h]
  rfl

theorem ReadM.bind_error {x : ReadM α} {f : α → ReadM β} {e : CompileError}
    (h : x s = .error e) : (x >>= f) s = .error e := by
  show Except.bind (x s) _ = _
  rw [h]
  rfl

theorem ReadM.get_run : (get : ReadM ReadState) s = .ok (s, s) := rfl

theorem ReadM.pure_run {a : α} : (pure a : ReadM α) s = .ok (a, s) := rfl

/-- What reading plain tokens leaves alone: the text, the flags, the groups opened and the
conditional references. -/
structure ReadState.Keeps (s s' : ReadState) : Prop where
  src : s'.src = s.src
  flags : s'.flags = s.flags
  groups : s'.groups = s.groups
  condRefs : s'.condRefs = s.condRefs
  bytes : s'.bytes = s.bytes

theorem ReadState.Keeps.refl (s : ReadState) : s.Keeps s := ⟨rfl, rfl, rfl, rfl, rfl⟩

theorem ReadState.Keeps.trans {s₁ s₂ s₃ : ReadState} (h₁ : s₁.Keeps s₂) (h₂ : s₂.Keeps s₃) :
    s₁.Keeps s₃ :=
  ⟨h₂.src.trans h₁.src, h₂.flags.trans h₁.flags, h₂.groups.trans h₁.groups,
    h₂.condRefs.trans h₁.condRefs, h₂.bytes.trans h₁.bytes⟩

/-- The reader has the tokens `ts` ahead of the token in hand, none of them a plain backslash. -/
def Ahead (s : ReadState) (ts : List Token) : Prop :=
  s.src.toList.drop s.index = tokensText ts ∧ ∀ t ∈ ts, t ≠ .plain '\\'

/-- The reader holds the first of `ts`, or nothing when there is none, the rest ahead. -/
def Holds (s : ReadState) (ts : List Token) : Prop := s.next = ts.head? ∧ Ahead s ts.tail

/-- **The reader takes the tokens of a text back**, one at a time. -/
theorem advance_ahead (h : Ahead s ts) : ∃ s', advance s = .ok ((), s') ∧ Holds s' ts ∧ s.Keeps s' := by
  obtain ⟨hdrop, hlex⟩ := h
  have hget : ∀ k, s.src[s.index + k]? = (tokensText ts)[k]? := by
    intro k
    rw [← hdrop, List.getElem?_drop, Array.getElem?_toList]
  unfold advance
  rw [ReadM.bind_ok ReadM.get_run]
  cases ts with
  | nil =>
    have h0 : s.src[s.index]? = none := by simpa using hget 0
    simp only [h0]
    exact ⟨_, rfl, ⟨rfl, hdrop, by simp⟩, ⟨rfl, rfl, rfl, rfl, rfl⟩⟩
  | cons t ts =>
    have hrest : ∀ u ∈ ts, u ≠ .plain '\\' := fun u hu => hlex u (List.mem_cons_of_mem _ hu)
    cases t with
    | plain c =>
      have hc : c ≠ '\\' := fun h => hlex _ List.mem_cons_self (by rw [h])
      have h0 : s.src[s.index]? = some c := by simpa [Token.chars] using hget 0
      simp only [h0]
      refine ⟨_, rfl, ⟨rfl, ?_, hrest⟩, ⟨rfl, rfl, rfl, rfl, rfl⟩⟩
      show s.src.toList.drop (s.index + 1) = tokensText ts
      rw [← List.drop_drop, hdrop]
      simp [Token.chars]
    | escaped c =>
      have h0 : s.src[s.index]? = some '\\' := by simpa [Token.chars] using hget 0
      have h1 : s.src[s.index + 1]? = some c := by simpa [Token.chars] using hget 1
      simp only [h0, h1]
      refine ⟨_, rfl, ⟨rfl, ?_, hrest⟩, ⟨rfl, rfl, rfl, rfl, rfl⟩⟩
      show s.src.toList.drop (s.index + 2) = tokensText ts
      rw [← List.drop_drop, hdrop]
      simp [Token.chars]

theorem Holds.ahead (h : Holds s (t :: ts)) : Ahead s ts := h.2

theorem peek_run : peek s = .ok (s.next, s) := rfl

theorem tell_run : tell s = .ok (s.index - tokenLength s.next, s) := rfl

theorem currentFlags_run (scopes : FlagScope) : ∃ fl, currentFlags scopes s = .ok (fl, s) :=
  ⟨_, rfl⟩

/-- Outside any group the flags in force are the pattern's own. -/
theorem currentFlags_nil_run : currentFlags [] s = .ok (s.flags, s) := rfl

theorem take_holds (h : Holds s (t :: ts)) :
    ∃ s', take s = .ok (some t, s') ∧ Holds s' ts ∧ s.Keeps s' := by
  obtain ⟨s', hadv, hs', hk⟩ := advance_ahead h.ahead
  refine ⟨s', ?_, hs', hk⟩
  unfold take
  rw [ReadM.bind_ok peek_run, h.1, ReadM.bind_ok hadv]
  rfl

theorem accept_holds {c : Char} (h : Holds s (.plain c :: ts)) :
    ∃ s', accept c s = .ok (true, s') ∧ Holds s' ts ∧ s.Keeps s' := by
  obtain ⟨s', hadv, hs', hk⟩ := advance_ahead h.ahead
  refine ⟨s', ?_, hs', hk⟩
  have hc : tokenIs (· == c) s.next = true := by simp [h.1, tokenIs]
  unfold accept
  rw [ReadM.bind_ok peek_run]
  simp only [hc, ↓reduceIte]
  rw [ReadM.bind_ok hadv]
  rfl

theorem accept_not {c : Char} (h : tokenIs (· == c) s.next = false) :
    accept c s = .ok (false, s) := by
  unfold accept
  rw [ReadM.bind_ok peek_run]
  simp only [h, Bool.false_eq_true, ↓reduceIte]
  rfl

end Regex

/-! ## Special characters -/

/-- A property of every special character is the property of each. -/
theorem forall_specialChars {P : Char → Prop} :
    (∀ c ∈ specialChars, P c) ↔
      P '(' ∧ P ')' ∧ P '[' ∧ P ']' ∧ P '\x7b' ∧ P '\x7d' ∧ P '?' ∧ P '*' ∧ P '+' ∧ P '-' ∧
      P '|' ∧ P '^' ∧ P '$' ∧ P '\\' ∧ P '.' ∧ P '&' ∧ P '~' ∧ P '#' ∧ P ' ' ∧ P '\t' ∧
      P '\n' ∧ P '\r' ∧ P '\x0b' ∧ P '\x0c' := by
  simp only [specialChars, List.forall_mem_cons, List.not_mem_nil, IsEmpty.forall_iff,
    implies_true, and_true]

/-- An escaped special character stands for itself, inside a class and outside one. -/
theorem escape_special {c : Char} (hc : specialChars.contains c = true) (n : Nat) (s : ReadState) :
    classEscape c n s = .ok (.char c, s) ∧ seqEscape c n s = .ok (.char c, s) := by
  revert c
  simp only [List.contains_iff_mem]
  rw [forall_specialChars]
  and_intros <;> rfl

/-- A special character is never written plain. -/
theorem escapedToken_ne_plain {c d : Char} (hd : specialChars.contains d = true) :
    escapedToken c ≠ .plain d := by
  unfold escapedToken
  split
  · exact Token.noConfusion
  · rintro ⟨⟩
    simp_all

theorem Regex.Token.isChar_eq_true_iff {c : Char} {t : Token} :
    t.isChar c = true ↔ t = .plain c := by
  cases t with
  | plain d =>
    simp only [Token.isChar, beq_iff_eq, Token.plain.injEq]
    exact eq_comm
  | escaped d => simp [Token.isChar]

theorem Regex.tokenIs_beq_iff {c : Char} {t : Option Token} :
    tokenIs (· == c) t = true ↔ t = some (.plain c) := by
  rcases t with _ | _ | _ <;> simp [tokenIs]

/-- The token of a class member is never the closing bracket. -/
theorem ClassUnit.token_ne_close (u : ClassUnit) : u.token ≠ .plain ']' := by
  cases u with
  | dash => simp [token]
  | plain c => exact escapedToken_ne_plain (by decide)

theorem ClassUnit.isChar_close_token (u : ClassUnit) : u.token.isChar ']' = false := by
  rw [Bool.eq_false_iff, ne_eq, Token.isChar_eq_true_iff]
  exact u.token_ne_close

/-- Only a dash of a class is written as a plain dash. -/
theorem ClassUnit.token_eq_dash_iff {u : ClassUnit} : u.token = .plain '-' ↔ u = .dash := by
  cases u with
  | dash => simp [token]
  | plain c =>
    simp only [token, reduceCtorEq, iff_false]
    exact escapedToken_ne_plain (by decide)

/-- The token of a class member is read back as the member's character. -/
theorem ClassUnit.classCode_token (u : ClassUnit) (n : Nat) (s : ReadState) :
    classCode u.token n s = .ok (.char u.char, s) := by
  cases u with
  | dash => rfl
  | plain c =>
    show classCode (escapedToken c) n s = _
    unfold escapedToken
    split
    · rename_i hc
      exact (escape_special hc n s).1
    · rfl

/-! ## Reading a class -/

/-- Whether a class has a range whose upper end lies below its lower end. -/
def Reversed (units : List ClassUnit) : Prop := ∃ r ∈ classRanges units, r.2 < r.1

instance : DecidablePred Reversed := fun units =>
  inferInstanceAs (Decidable (∃ r ∈ classRanges units, r.2 < r.1))

/-- What a read from `s` gives: a refusal when `bad` holds, and otherwise a result satisfying `P`,
with the reader then holding `rest` and the text, flags and conditional references kept. -/
def Regex.Yields {α : Type} (r : Except CompileError (α × ReadState)) (bad : Prop) (P : α → Prop)
    (s : ReadState) (rest : List Token) : Prop :=
  (bad → ∃ e, r = .error e) ∧ (¬bad → ∃ a s', r = .ok (a, s') ∧ P a ∧ Holds s' rest ∧ s.Keeps s')

namespace Regex

variable {α : Type} {r : Except CompileError (α × ReadState)} {bad bad' : Prop} {P : α → Prop}
  {s s' : ReadState} {rest : List Token}

theorem Yields.of_error {e : CompileError} (h : r = .error e) (hb : bad) : Yields r bad P s rest :=
  ⟨fun _ => ⟨e, h⟩, fun hn => absurd hb hn⟩

theorem Yields.of_ok {a : α} (h : r = .ok (a, s')) (hp : P a) (hh : Holds s' rest)
    (hk : s.Keeps s') (hb : ¬bad) : Yields r bad P s rest :=
  ⟨fun h' => absurd h' hb, fun _ => ⟨a, s', h, hp, hh, hk⟩⟩

/-- A read that keeps what the reader keeps may start from an earlier state. -/
theorem Yields.keeps (h : Yields r bad P s' rest) (hk : s.Keeps s') : Yields r bad P s rest := by
  refine ⟨h.1, fun hb => ?_⟩
  obtain ⟨a, s'', hr, hp, hh, hk'⟩ := h.2 hb
  exact ⟨a, s'', hr, hp, hh, hk.trans hk'⟩

theorem Yields.of_iff (h : Yields r bad P s rest) (hb : bad' ↔ bad) : Yields r bad' P s rest :=
  ⟨fun h' => h.1 (hb.mp h'), fun h' => h.2 (fun h'' => h' (hb.mpr h''))⟩

theorem Yields.imp {Q : α → Prop} (h : Yields r bad P s rest) (hpq : ∀ a, P a → Q a) :
    Yields r bad Q s rest := by
  refine ⟨h.1, fun hb => ?_⟩
  obtain ⟨a, s', hr, hp, hh, hk⟩ := h.2 hb
  exact ⟨a, s', hr, hpq a hp, hh, hk⟩

theorem Yields.bind_pure {β : Type} {x : ReadM α} {f : α → β} {Q : β → Prop}
    (h : Yields (x s) bad P s rest) (hf : ∀ a, P a → Q (f a)) :
    Yields ((x >>= fun a => pure (f a)) s) bad Q s rest := by
  refine ⟨fun hb => ?_, fun hb => ?_⟩
  · obtain ⟨e, he⟩ := h.1 hb
    exact ⟨e, ReadM.bind_error he⟩
  · obtain ⟨a, s', hx, hp, hh, hk⟩ := h.2 hb
    exact ⟨f a, s', ReadM.bind_ok hx, hf a hp, hh, hk⟩

theorem refuse_error (msg : String) (off : Nat) (s : ReadState) :
    ∃ e, (refuse msg off : ReadM α) s = .error e :=
  ⟨_, rfl⟩

end Regex

theorem not_reversed_nil : ¬Reversed [] := by
  simp [Reversed, classRanges]

theorem not_reversed_dash_end (u : ClassUnit) : ¬Reversed [u, .dash] := by
  simp [Reversed, classRanges]

theorem reversed_range_iff {u v : ClassUnit} {units : List ClassUnit} :
    Reversed (u :: .dash :: v :: units) ↔ v.char.toNat < u.char.toNat ∨ Reversed units := by
  simp only [Reversed, classRanges, List.mem_cons, exists_eq_or_imp]
  rfl

theorem reversed_single_iff {u : ClassUnit} {units : List ClassUnit} (h₁ : units ≠ [.dash])
    (h₂ : ∀ v rest, units ≠ .dash :: v :: rest) : Reversed (u :: units) ↔ Reversed units := by
  simp [Reversed, classRanges.eq_4 u units h₁ h₂]

/-! ## The members a class reads as -/

/-- Whether a character lies in a range of a class, ends included. -/
def rangeHolds (x : Char) (r : Char × Char) : Bool := r.1 ≤ x && x ≤ r.2

theorem GlobToken.accepts_cls (neg : Bool) (units : List ClassUnit) (x : Char) :
    (GlobToken.cls neg units).accepts x = ((classRanges units).any (rangeHolds x) != neg) := rfl

theorem rangeHolds_self (x c : Char) : rangeHolds x (c, c) = (x == c) := by
  rw [Bool.eq_iff_iff]
  simp only [rangeHolds, Bool.and_eq_true, decide_eq_true_eq, beq_iff_eq]
  exact ⟨fun h => Char.le_antisymm h.2 h.1, fun h => ⟨h ▸ Char.le_refl x, h ▸ Char.le_refl x⟩⟩

/-- The member a range of two characters reads as holds the characters of the range. -/
theorem plainIn_rangeItem (fl : Flags) (x : Char) {u v : Char} (h : ¬v.toNat < u.toNat) :
    plainIn fl x (rangeItem u.toNat v.toNat) = rangeHolds x (u, v) := by
  have hu := u.valid
  have hv := v.valid
  have hsu : (decide (55296 ≤ u.toNat) && decide (u.toNat ≤ 57343)) = false := by
    simp only [Char.toNat] at hu ⊢
    simp only [Bool.and_eq_false_iff, decide_eq_false_iff_not, Nat.not_le]
    omega
  have hsv : (decide (55296 ≤ v.toNat) && decide (v.toNat ≤ 57343)) = false := by
    simp only [Char.toNat] at hv ⊢
    simp only [Bool.and_eq_false_iff, decide_eq_false_iff_not, Nat.not_le]
    omega
  simp only [rangeItem, hsu, hsv, Bool.false_eq_true, ↓reduceIte, if_neg h, plainIn, rangeHolds,
    Char.ofNat_toNat]

theorem any_dedupItems (f : ClassItem → Bool) (items : List ClassItem) :
    (dedupItems items).any f = items.any f := by
  have key : ∀ acc : List ClassItem,
      (items.foldl (fun acc x => if acc.contains x then acc else acc ++ [x]) acc).any f =
        (acc.any f || items.any f) := by
    induction items with
    | nil => simp
    | cons y ys ih =>
      intro acc
      rw [List.foldl_cons, ih]
      split
      · rename_i hy
        have hmem : y ∈ acc := by simpa using hy
        cases hf : f y
        · simp [hf]
        · simp [List.any_eq_true.mpr ⟨y, hmem, hf⟩]
      · simp [Bool.or_assoc]
  rw [dedupItems, key]
  simp

/-- **The reader reads the members of a class range by range**, as `classRanges` forms them,
refusing a range whose ends are backwards; the closing `]` is taken with the members, which hold
the characters of the ranges. -/
theorem readClassItems_units {here : Nat} (units : List ClassUnit) {fuel : Nat}
    {acc : List ClassItem} {s : ReadState} {rest : List Token} (hne : units ≠ [] ∨ acc ≠ [])
    (hfuel : units.length < fuel) (hs : Holds s (units.map ClassUnit.token ++ .plain ']' :: rest)) :
    Yields (readClassItems here fuel acc s) (Reversed units)
      (fun items => ∀ fl x, items.any (plainIn fl x) =
        (acc.any (plainIn fl x) || (classRanges units).any (rangeHolds x))) s rest := by
  induction units using classRanges.induct generalizing fuel acc s with
  | case1 =>
    obtain ⟨n, rfl⟩ : ∃ n, fuel = n + 1 := ⟨fuel - 1, by simp at hfuel; omega⟩
    have hacc : acc ≠ [] := by simpa using hne
    obtain ⟨s', htake, hs', hk⟩ := take_holds hs
    unfold readClassItems
    rw [ReadM.bind_ok htake]
    have hstop : (Token.isChar ']' (.plain ']') && !acc.isEmpty) = true := by
      simp [Token.isChar, hacc]
    simp only [hstop, ↓reduceIte]
    exact .of_ok rfl (fun fl x => by simp [classRanges]) hs' hk not_reversed_nil
  | case2 u =>
    obtain ⟨n, rfl⟩ : ∃ n, fuel = n + 1 := ⟨fuel - 1, by simp at hfuel; omega⟩
    obtain ⟨s₁, htake₁, hs₁, hk₁⟩ := take_holds hs
    obtain ⟨s₂, hdash, hs₂, hk₂⟩ := accept_holds hs₁
    obtain ⟨s₃, htake₃, hs₃, hk₃⟩ := take_holds hs₂
    unfold readClassItems
    rw [ReadM.bind_ok htake₁]
    simp only [u.isChar_close_token, Bool.false_and, Bool.false_eq_true, ↓reduceIte]
    rw [ReadM.bind_ok (u.classCode_token n s₁), ReadM.bind_ok hdash]
    simp only [↓reduceIte]
    rw [ReadM.bind_ok htake₃]
    simp only [Token.isChar, beq_self_eq_true, ↓reduceIte]
    refine .of_ok rfl (fun fl x => ?_) hs₃ (hk₁.trans (hk₂.trans hk₃)) (not_reversed_dash_end u)
    simp [Escaped.classItems, classRanges, rangeHolds_self, plainIn]
  | case3 u v units ih =>
    obtain ⟨n, rfl⟩ : ∃ n, fuel = n + 1 := ⟨fuel - 1, by simp at hfuel; omega⟩
    obtain ⟨s₁, htake₁, hs₁, hk₁⟩ := take_holds hs
    obtain ⟨s₂, hdash, hs₂, hk₂⟩ := accept_holds hs₁
    obtain ⟨s₃, htake₃, hs₃, hk₃⟩ := take_holds hs₂
    unfold readClassItems
    rw [ReadM.bind_ok htake₁]
    simp only [u.isChar_close_token, Bool.false_and, Bool.false_eq_true, ↓reduceIte]
    rw [ReadM.bind_ok (u.classCode_token n s₁), ReadM.bind_ok hdash]
    simp only [↓reduceIte]
    rw [ReadM.bind_ok htake₃]
    simp only [v.isChar_close_token, Bool.false_eq_true, ↓reduceIte]
    rw [ReadM.bind_ok (v.classCode_token n s₃)]
    simp only [Escaped.code?]
    by_cases hlt : v.char.toNat < u.char.toNat
    · rw [if_pos hlt]
      obtain ⟨e, he⟩ : ∃ e, (refuse ("bad character range " ++ u.token.text ++ "-" ++ v.token.text)
          (u.token.text.length + 1 + v.token.text.length) : ReadM Unit) s₃ = .error e :=
        refuse_error _ _ _
      rw [ReadM.bind_error he]
      exact .of_error rfl (reversed_range_iff.mpr (.inl hlt))
    · rw [if_neg hlt]
      have hrest := @ih n (acc ++ [rangeItem u.char.toNat v.char.toNat]) s₃ (.inr (by simp))
        (by simp at hfuel; omega) hs₃
      refine ((hrest.keeps (hk₁.trans (hk₂.trans hk₃))).imp fun items h fl x => ?_).of_iff ?_
      · rw [h, List.any_append, List.any_cons, List.any_nil, Bool.or_false,
          plainIn_rangeItem fl x hlt]
        simp [classRanges, Bool.or_assoc]
      · rw [reversed_range_iff]
        simp [hlt]
  | case4 u units h₁ h₂ ih =>
    obtain ⟨n, rfl⟩ : ∃ n, fuel = n + 1 := ⟨fuel - 1, by simp at hfuel; omega⟩
    obtain ⟨s₁, htake₁, hs₁, hk₁⟩ := take_holds hs
    have hnext : tokenIs (· == '-') s₁.next = false := by
      rw [Bool.eq_false_iff, ne_eq, tokenIs_beq_iff, hs₁.1]
      cases units with
      | nil => simp
      | cons w ws =>
        have hw : w ≠ .dash := by
          rintro rfl
          cases ws with
          | nil => exact h₁ rfl
          | cons v r => exact h₂ v r rfl
        simpa [ClassUnit.token_eq_dash_iff] using hw
    unfold readClassItems
    rw [ReadM.bind_ok htake₁]
    simp only [u.isChar_close_token, Bool.false_and, Bool.false_eq_true, ↓reduceIte]
    rw [ReadM.bind_ok (u.classCode_token n s₁), ReadM.bind_ok (accept_not hnext)]
    simp only [Bool.false_eq_true, ↓reduceIte]
    have hrest := @ih n (acc ++ (Escaped.char u.char).classItems) s₁
      (.inr (by simp [Escaped.classItems])) (by simp at hfuel; omega) hs₁
    refine ((hrest.keeps hk₁).imp fun items h fl x => ?_).of_iff (reversed_single_iff h₁ h₂)
    rw [h, classRanges.eq_4 u units h₁ h₂]
    simp [Escaped.classItems, plainIn, rangeHolds_self, Bool.or_assoc]

/-- A class after its `[`: the negation, then the members, which hold the characters of the
class's ranges. -/
theorem readClass_units {fuel here : Nat} {neg : Bool} {units : List ClassUnit} {s : ReadState}
    {rest : List Token} (hne : units ≠ []) (hfuel : units.length ≤ fuel)
    (hs : Holds s ((if neg then [.plain '^'] else []) ++ units.map ClassUnit.token ++ .plain ']' :: rest)) :
    Yields (readClass fuel here s) (Reversed units)
      (fun r => r.2 = neg ∧ ∀ fl x, r.1.any (plainIn fl x) = (classRanges units).any (rangeHolds x))
      s rest := by
  have hitems : ∀ (b : Bool) (its : List ClassItem),
      (∀ fl x, its.any (plainIn fl x) = (([] : List ClassItem).any (plainIn fl x) ||
        (classRanges units).any (rangeHolds x))) →
      (dedupItems its, b).2 = b ∧ ∀ fl x, (dedupItems its, b).1.any (plainIn fl x) =
        (classRanges units).any (rangeHolds x) := by
    intro b its h
    refine ⟨rfl, fun fl x => ?_⟩
    rw [any_dedupItems, h]
    simp
  unfold readClass
  cases neg with
  | true =>
    obtain ⟨s₁, hneg, hs₁, hk₁⟩ := accept_holds hs
    rw [ReadM.bind_ok hneg]
    have h := @readClassItems_units here units (fuel + 1) [] s₁ rest (.inl hne) (by omega) hs₁
    exact (h.bind_pure (hitems true)).keeps hk₁
  | false =>
    obtain ⟨u, us, rfl⟩ := List.exists_cons_of_ne_nil hne
    have hneg : tokenIs (· == '^') s.next = false := by
      rw [Bool.eq_false_iff, ne_eq, tokenIs_beq_iff, hs.1]
      cases u with
      | dash => simp [ClassUnit.token]
      | plain c => simpa [ClassUnit.token] using escapedToken_ne_plain (c := c) (d := '^') rfl
    rw [ReadM.bind_ok (accept_not hneg)]
    have h := @readClassItems_units here (u :: us) (fuel + 1) [] s rest (.inl hne) (by omega)
      (by simpa using hs)
    exact h.bind_pure (hitems false)

/-! ## The nodes of a glob's tokens -/

/-- A node of one character or one class: what a character or a class of a glob reads as. -/
def Regex.Node.IsAtom (n : Node) : Prop :=
  (∃ c neg fl, n = .char c neg fl) ∨ ∃ items neg fl, n = .cls items neg fl

/-- A node that takes one character exactly when the glob token `t` accepts it. -/
structure Regex.Node.TakesAs (n : Node) (t : GlobToken) : Prop where
  atom : n.IsAtom
  accepts : ∀ x, singleAccepts n x = some (t.accepts x)

/-- The node the pattern text of a glob token reads as: a token of one character reads as one
node taking the characters it accepts, and `*` as a greedy repetition, without bound, of a node
taking any character but `/`. -/
inductive GlobToken.ReadsAs : GlobToken → Node → Prop
  | single {t : GlobToken} {n : Node} : t ≠ .star → n.TakesAs t → GlobToken.ReadsAs t n
  | star {n : Node} : n.TakesAs .one → GlobToken.ReadsAs .star (.rep 0 none .greedy [n])

theorem Regex.Node.TakesAs.of_accepts {n : Node} {t t' : GlobToken} (h : n.TakesAs t)
    (ht : ∀ x, t.accepts x = t'.accepts x) : n.TakesAs t' :=
  ⟨h.atom, fun x => (h.accepts x).trans (congrArg some (ht x))⟩

section CaseAsWritten

variable {fl : Flags} (hic : fl.ignoreCase = false)
include hic

theorem singleAccepts_char (c : Char) (neg : Bool) (x : Char) :
    singleAccepts (.char c neg fl) x = some ((x == c) != neg) := by
  simp [singleAccepts, charMatches, hic]

theorem singleAccepts_cls (items : List ClassItem) (neg : Bool) (x : Char) :
    singleAccepts (.cls items neg fl) x = some (items.any (plainIn fl x) != neg) := by
  simp [singleAccepts, classHas, hic]

/-- A character of a glob reads as a node taking that character. -/
theorem Regex.Node.char_takesAs (c : Char) : (Node.char c false fl).TakesAs (.char c) := by
  refine ⟨.inl ⟨_, _, _, rfl⟩, fun x => ?_⟩
  rw [singleAccepts_char hic]
  simp [GlobToken.accepts, eq_comm]

/-- The node a class reads as, one character or a class, takes the characters of its ranges. -/
theorem Regex.Node.classNode_takesAs {items : List ClassItem} {neg : Bool} {units : List ClassUnit}
    (hitems : ∀ x, items.any (plainIn fl x) = (classRanges units).any (rangeHolds x)) :
    (match items with
      | [.char ch] => Node.char ch neg fl
      | _ => .cls items neg fl).TakesAs (.cls neg units) := by
  split
  · refine ⟨.inl ⟨_, _, _, rfl⟩, fun x => ?_⟩
    rw [singleAccepts_char hic, GlobToken.accepts_cls, ← hitems]
    simp [plainIn]
  · refine ⟨.inr ⟨_, _, _, rfl⟩, fun x => ?_⟩
    rw [singleAccepts_cls hic, GlobToken.accepts_cls, hitems]

end CaseAsWritten

/-- The class `[^/]` accepts what `?` does. -/
theorem GlobToken.accepts_not_slash (x : Char) :
    (GlobToken.cls true [.plain '/']).accepts x = GlobToken.one.accepts x := by
  rw [accepts_cls]
  simp only [classRanges, ClassUnit.char, List.any_cons, List.any_nil, Bool.or_false,
    rangeHolds_self]
  simp [GlobToken.accepts, bne]

/-- A step of reading the tokens: the node of the token read joins those of the rest. -/
theorem readsAs_cons {acc : List Piece} {t : GlobToken} {n : Node} {gs : List GlobToken}
    (ht : t.ReadsAs n) (ps : List Piece)
    (h : ∃ nodes, ps = (acc ++ [.node n]) ++ nodes.map Piece.node ∧
      List.Forall₂ GlobToken.ReadsAs gs nodes) :
    ∃ nodes, ps = acc ++ nodes.map Piece.node ∧ List.Forall₂ GlobToken.ReadsAs (t :: gs) nodes := by
  obtain ⟨nodes, rfl, h⟩ := h
  exact ⟨n :: nodes, by simp, .cons ht h⟩

/-! ## Reading the pattern text of a glob -/

/-- A character of a glob reads as one character node. -/
theorem readPieces_char {fuel nested : Nat} {first : Bool} {acc : List Piece}
    {s : ReadState} {c : Char} {rest : List Token} (hs : Holds s (escapedToken c :: rest)) :
    ∃ s', readPieces (fuel + 1) false nested first [] acc s =
      readPieces fuel false nested first [] (acc ++ [.node (.char c false s.flags)]) s' ∧
      Holds s' rest ∧ s.Keeps s' := by
  obtain ⟨s', hadv, hs', hk⟩ := advance_ahead hs.ahead
  rw [readPieces, ReadM.bind_ok peek_run, hs.1]
  by_cases hc : specialChars.contains c = true
  · have ht : escapedToken c = .escaped c := if_pos hc
    simp only [ht, List.head?_cons, Token.isChar, Bool.false_or, Bool.false_eq_true, ↓reduceIte]
    rw [ReadM.bind_ok hadv, ReadM.bind_ok currentFlags_nil_run,
      ReadM.bind_ok (escape_special hc fuel s').2, hk.flags]
    exact ⟨s', rfl, hs', hk⟩
  · have ht : escapedToken c = .plain c := if_neg hc
    have hne : ∀ d, specialChars.contains d = true → (c == d) = false := fun d hd => by
      rw [beq_eq_false_iff_ne]
      rintro rfl
      exact hc hd
    have hne' : ∀ d, specialChars.contains d = true → (d == c) = false := fun d hd =>
      BEq.comm.trans (hne d hd)
    simp only [ht, List.head?_cons, Token.isChar, hne' '|' rfl, hne' ')' rfl, Bool.or_false,
      Bool.false_eq_true, ↓reduceIte]
    rw [ReadM.bind_ok hadv, ReadM.bind_ok currentFlags_nil_run]
    simp only [hne '[' rfl, hne '*' rfl, hne '+' rfl, hne '?' rfl, hne '\x7b' rfl, hne '.' rfl,
      hne '^' rfl, hne '$' rfl, hne '(' rfl, Bool.or_false, Bool.false_eq_true, ↓reduceIte]
    rw [hk.flags]
    exact ⟨s', rfl, hs', hk⟩

/-- A class of a glob reads as one node taking the characters the class accepts, unless a range
of it is backwards. -/
theorem readPieces_class {fuel nested : Nat} {first : Bool}
    {acc : List Piece} {s : ReadState} {neg : Bool} {units : List ClassUnit} {rest : List Token}
    (hic : s.flags.ignoreCase = false) (hne : units ≠ []) (hfuel : units.length ≤ fuel)
    (hs : Holds s ((GlobToken.cls neg units).patternTokens ++ rest)) :
    (Reversed units → ∃ e, readPieces (fuel + 1) false nested first [] acc s = .error e) ∧
    (¬Reversed units → ∃ n s', readPieces (fuel + 1) false nested first [] acc s =
      readPieces fuel false nested first [] (acc ++ [.node n]) s' ∧ n.TakesAs (.cls neg units) ∧
      Holds s' rest ∧ s.Keeps s') := by
  simp only [GlobToken.patternTokens, List.cons_append, List.append_assoc] at hs
  obtain ⟨s₁, hadv, hs₁, hk₁⟩ := advance_ahead hs.ahead
  have hcls := @readClass_units fuel (s₁.index - tokenLength s₁.next - 1) neg units s₁ rest hne
    hfuel (by simpa using hs₁)
  rw [readPieces, ReadM.bind_ok peek_run, hs.1]
  simp +decide only [List.head?_cons, ↓reduceIte]
  rw [ReadM.bind_ok hadv, ReadM.bind_ok currentFlags_nil_run, ReadM.bind_ok tell_run]
  refine ⟨fun hb => ?_, fun hb => ?_⟩
  · obtain ⟨e, he⟩ := hcls.1 hb
    exact ⟨e, ReadM.bind_error he⟩
  · obtain ⟨⟨items, neg'⟩, s₂, hr, ⟨rfl, hitems⟩, hs₂, hk₂⟩ := hcls.2 hb
    rw [ReadM.bind_ok hr]
    have hic₁ : s₁.flags.ignoreCase = false := by rw [hk₁.flags]; exact hic
    exact ⟨_, s₂, rfl, Node.classNode_takesAs hic₁ (hitems s₁.flags), hs₂, hk₁.trans hk₂⟩

/-- A character or a class can be repeated: it is its own body. -/
theorem repeatTarget_atom {n : Node} (hn : n.IsAtom) (acc : List Piece) (pos : Nat)
    (s : ReadState) : repeatTarget (acc ++ [.node n]) pos s = .ok ([n], s) := by
  rcases hn with ⟨c, neg, fl, rfl⟩ | ⟨items, neg, fl, rfl⟩ <;>
    simp only [repeatTarget, List.getLast?_append, List.getLast?_singleton, Option.some_or] <;> rfl

/-- The `*` after the class of a glob's `*` repeats that class. -/
theorem readPieces_star {fuel nested : Nat} {first : Bool} {scopes : FlagScope}
    {acc : List Piece} {s : ReadState} {n : Node} {rest : List Token} (hn : n.IsAtom)
    (hs : Holds s (.plain '*' :: rest)) (hq : rest.head? ≠ some (.plain '?'))
    (hp : rest.head? ≠ some (.plain '+')) :
    ∃ s', readPieces (fuel + 1) false nested first scopes (acc ++ [.node n]) s =
      readPieces fuel false nested first scopes (acc ++ [.node (.rep 0 none .greedy [n])]) s' ∧
      Holds s' rest ∧ s.Keeps s' := by
  obtain ⟨s₁, hadv, hs₁, hk₁⟩ := advance_ahead hs.ahead
  obtain ⟨fl, hfl⟩ := currentFlags_run (s := s₁) scopes
  have hlazy : tokenIs (· == '?') s₁.next = false := by
    rw [Bool.eq_false_iff, ne_eq, tokenIs_beq_iff, hs₁.1]
    exact hq
  have hposs : tokenIs (· == '+') s₁.next = false := by
    rw [Bool.eq_false_iff, ne_eq, tokenIs_beq_iff, hs₁.1]
    exact hp
  rw [readPieces, ReadM.bind_ok peek_run, hs.1]
  simp +decide only [List.head?_cons, ↓reduceIte]
  rw [ReadM.bind_ok hadv, ReadM.bind_ok hfl, ReadM.bind_ok tell_run]
  have hstar : readQuantifier '*' (s₁.index - tokenLength s₁.next) s₁ = .ok (some (0, none), s₁) :=
    rfl
  rw [ReadM.bind_ok hstar]
  dsimp only
  rw [ReadM.bind_ok (repeatTarget_atom hn _ _ _), ReadM.bind_ok (accept_not hlazy)]
  simp only [Bool.false_eq_true, ↓reduceIte]
  rw [ReadM.bind_ok (accept_not hposs)]
  exact ⟨s₁, by simp only [List.dropLast_concat]; rfl, hs₁, hk₁⟩

/-- Whether a class among the tokens has a backwards range. -/
def HasReversedClass (gs : List GlobToken) : Prop :=
  ∃ neg units, GlobToken.cls neg units ∈ gs ∧ Reversed units

theorem not_hasReversedClass_nil : ¬HasReversedClass [] := by
  simp [HasReversedClass]

theorem hasReversedClass_cons_iff {t : GlobToken} {gs : List GlobToken} :
    HasReversedClass (t :: gs) ↔
      (∃ neg units, t = .cls neg units ∧ Reversed units) ∨ HasReversedClass gs := by
  simp only [HasReversedClass, List.mem_cons]
  constructor
  · rintro ⟨neg, units, rfl | h, hr⟩
    · exact .inl ⟨neg, units, rfl, hr⟩
    · exact .inr ⟨neg, units, h, hr⟩
  · rintro (⟨neg, units, rfl, hr⟩ | ⟨neg, units, h, hr⟩)
    · exact ⟨neg, units, .inl rfl, hr⟩
    · exact ⟨neg, units, .inr h, hr⟩

/-- No token of a glob starts its pattern text with a plain special character other than `[`. -/
theorem GlobToken.head_patternTokens_ne {d : Char} (hd : specialChars.contains d = true)
    (hb : d ≠ '[') (t : GlobToken) : t.patternTokens.head? ≠ some (.plain d) := by
  cases t with
  | char c =>
    simp only [patternTokens, List.head?_cons, ne_eq, Option.some.injEq]
    exact escapedToken_ne_plain hd
  | star | one | cls neg units =>
    simp only [patternTokens, List.head?_cons, ne_eq, Option.some.injEq, Token.plain.injEq]
    exact fun h => hb h.symm

theorem head_flatMap_patternTokens_ne {d : Char} (hd : specialChars.contains d = true)
    (hb : d ≠ '[') (gs : List GlobToken) :
    (gs.flatMap GlobToken.patternTokens).head? ≠ some (.plain d) := by
  cases gs with
  | nil => simp
  | cons t gs =>
    have hne : t.patternTokens ≠ [] := by cases t <;> simp [GlobToken.patternTokens]
    rw [List.flatMap_cons, List.head?_append_of_ne_nil _ hne]
    exact t.head_patternTokens_ne hd hb

/-- **The reader reads the pattern text of a glob's tokens** to its end, each token into the node
it reads as, unless a class has a backwards range, which it refuses. The induction is on the
glob's tokens, each read by the step lemma of its kind. -/
theorem readPieces_globTokens {nested : Nat} {first : Bool}
    (gs : List GlobToken) {fuel : Nat} {acc : List Piece} {s : ReadState}
    (hic : s.flags.ignoreCase = false) (hcls : ∀ neg, GlobToken.cls neg [] ∉ gs)
    (hfuel : (gs.flatMap GlobToken.patternTokens).length < fuel)
    (hs : Holds s (gs.flatMap GlobToken.patternTokens)) :
    Yields (readPieces fuel false nested first [] acc s) (HasReversedClass gs)
      (fun ps => ∃ nodes, ps = acc ++ nodes.map Piece.node ∧
        List.Forall₂ GlobToken.ReadsAs gs nodes) s [] := by
  induction gs generalizing fuel acc s with
  | nil =>
    obtain ⟨n, rfl⟩ : ∃ n, fuel = n + 1 := ⟨fuel - 1, by simp at hfuel; omega⟩
    rw [readPieces, ReadM.bind_ok peek_run, hs.1]
    exact .of_ok rfl ⟨[], by simp, .nil⟩ hs (.refl s) not_hasReversedClass_nil
  | cons t gs ih =>
    have hrest : ∀ neg, GlobToken.cls neg [] ∉ gs := fun neg h => hcls neg (List.mem_cons_of_mem _ h)
    rw [List.flatMap_cons] at hfuel hs
    rw [List.length_append] at hfuel
    cases t with
    | char c =>
      simp only [GlobToken.patternTokens, List.length_cons, List.length_nil] at hfuel
      obtain ⟨n, rfl⟩ : ∃ n, fuel = n + 1 := ⟨fuel - 1, by omega⟩
      obtain ⟨s', heq, hs', hk⟩ := readPieces_char hs
      have ht : (GlobToken.char c).ReadsAs (.char c false s.flags) :=
        .single (by simp) (Node.char_takesAs hic c)
      rw [heq]
      refine (((ih (hk.flags ▸ hic) hrest (by omega) hs').keeps hk).imp
        (readsAs_cons ht)).of_iff ?_
      simp [hasReversedClass_cons_iff]
    | one =>
      simp only [GlobToken.patternTokens, List.length_cons, List.length_nil] at hfuel
      obtain ⟨n, rfl⟩ : ∃ n, fuel = n + 1 := ⟨fuel - 1, by omega⟩
      have hstep := @readPieces_class n nested first acc s true [.plain '/'] _ hic (by simp)
        (by simp only [List.length_cons, List.length_nil]; omega) hs
      obtain ⟨node, s', heq, hn, hs', hk⟩ := hstep.2 (by decide)
      have ht : GlobToken.one.ReadsAs node :=
        .single (by simp) (hn.of_accepts GlobToken.accepts_not_slash)
      rw [heq]
      refine (((ih (hk.flags ▸ hic) hrest (by omega) hs').keeps hk).imp
        (readsAs_cons ht)).of_iff ?_
      simp [hasReversedClass_cons_iff]
    | star =>
      simp only [GlobToken.patternTokens, List.length_cons, List.length_nil] at hfuel
      obtain ⟨n, rfl⟩ : ∃ n, fuel = n + 2 := ⟨fuel - 2, by omega⟩
      have hstep := @readPieces_class (n + 1) nested first acc s true [.plain '/'] _ hic
        (by simp) (by simp) hs
      obtain ⟨node, s', heq, hn, hs', hk⟩ := hstep.2 (by decide)
      obtain ⟨s'', heq', hs'', hk'⟩ := @readPieces_star n nested first [] acc s' node _ hn.atom hs'
        (head_flatMap_patternTokens_ne rfl (by decide) gs)
        (head_flatMap_patternTokens_ne rfl (by decide) gs)
      have ht : GlobToken.star.ReadsAs (.rep 0 none .greedy [node]) :=
        .star (hn.of_accepts GlobToken.accepts_not_slash)
      rw [heq, heq']
      refine (((ih ((hk.trans hk').flags ▸ hic) hrest (by omega) hs'').keeps (hk.trans hk')).imp
        (readsAs_cons ht)).of_iff ?_
      simp [hasReversedClass_cons_iff]
    | cls neg units =>
      have hne : units ≠ [] := by
        rintro rfl
        exact hcls neg List.mem_cons_self
      have hlen : units.length + 2 + (gs.flatMap GlobToken.patternTokens).length < fuel := by
        simp only [GlobToken.patternTokens, List.length_cons, List.length_append,
          List.length_map, List.length_nil] at hfuel
        split at hfuel <;> simp only [List.length_cons, List.length_nil] at hfuel <;> omega
      obtain ⟨n, rfl⟩ : ∃ n, fuel = n + 1 := ⟨fuel - 1, by omega⟩
      have hstep := @readPieces_class n nested first acc s neg units _ hic hne (by omega) hs
      have hiff : HasReversedClass (.cls neg units :: gs) ↔ Reversed units ∨ HasReversedClass gs := by
        simp [hasReversedClass_cons_iff]
      by_cases hr : Reversed units
      · obtain ⟨e, he⟩ := hstep.1 hr
        exact .of_error he (hiff.mpr (.inl hr))
      · obtain ⟨node, s', heq, hn, hs', hk⟩ := hstep.2 hr
        rw [heq]
        refine (((ih (hk.flags ▸ hic) hrest (by omega) hs').keeps hk).imp
          (readsAs_cons (.single (by simp) hn))).of_iff ?_
        simp [hiff, hr]

/-! ## Reading a whole pattern text -/

theorem Piece.flatten_map_node (nodes : List Node) : Piece.flatten (nodes.map .node) = nodes := by
  induction nodes with
  | nil => rfl
  | cons n nodes ih => rw [List.map_cons, Piece.flatten, ih]

theorem Regex.Node.IsAtom.checks {n : Node} (hn : n.IsAtom) : n.checks = [] := by
  rcases hn with ⟨c, neg, fl, rfl⟩ | ⟨items, neg, fl, rfl⟩ <;> rfl

/-- The nodes of a glob's tokens need no check but that of their repetitions. -/
theorem seqChecks_readsAs {gs : List GlobToken} {nodes : List Node}
    (h : List.Forall₂ GlobToken.ReadsAs gs nodes) :
    ∀ c ∈ seqChecks nodes, ∃ g, c = .repetition g := by
  induction h with
  | nil => simp [seqChecks]
  | cons ht _ ih =>
    intro c hc
    rw [seqChecks, List.mem_append] at hc
    rcases hc with hc | hc
    · cases ht with
      | single _ hn => simp [hn.atom.checks] at hc
      | star hn => simp [Node.checks, seqChecks, hn.atom.checks] at hc; exact ⟨_, hc⟩
    · exact ih c hc

/-- The pattern text of a glob's tokens is one branch, of the nodes the tokens read as. -/
theorem readAlternation_globTokens (gs : List GlobToken) {fuel : Nat} {s : ReadState}
    (hic : s.flags.ignoreCase = false) (hcls : ∀ neg, GlobToken.cls neg [] ∉ gs)
    (hfuel : (gs.flatMap GlobToken.patternTokens).length + 2 < fuel)
    (hs : Holds s (gs.flatMap GlobToken.patternTokens)) :
    Yields (readAlternation fuel false 0 [] s) (HasReversedClass gs)
      (List.Forall₂ GlobToken.ReadsAs gs) s [] := by
  obtain ⟨n, rfl⟩ : ∃ n, fuel = n + 2 := ⟨fuel - 2, by omega⟩
  have hpieces := @readPieces_globTokens 1 true gs n [] s hic hcls (by omega) hs
  rw [readAlternation, checkDepth, readDepthLimit, if_neg (by decide), ReadM.bind_ok ReadM.pure_run]
  refine Yields.bind_pure (P := fun items => ∃ nodes, items = [nodes.map Piece.node] ∧
    List.Forall₂ GlobToken.ReadsAs gs nodes) ?_ ?_
  · rw [readBranches, checkDepth, readDepthLimit, if_neg (by decide), ReadM.bind_ok ReadM.pure_run]
    simp only [Nat.zero_add, beq_self_eq_true, List.isEmpty_nil, Bool.and_self]
    by_cases hr : HasReversedClass gs
    · obtain ⟨e, he⟩ := hpieces.1 hr
      exact .of_error (ReadM.bind_error he) hr
    · obtain ⟨item, s', hread, ⟨nodes, hitem, hnodes⟩, hs', hk⟩ := hpieces.2 hr
      have hbar : tokenIs (· == '|') s'.next = false := by rw [hs'.1]; rfl
      rw [ReadM.bind_ok hread, ReadM.bind_ok (accept_not hbar)]
      exact .of_ok rfl ⟨nodes, by simpa using hitem, hnodes⟩ hs' hk hr
  · rintro items ⟨nodes, rfl, hnodes⟩
    simpa [joinBranches, Piece.flatten_map_node] using hnodes

theorem length_le_tokensText (ts : List Token) : ts.length ≤ (tokensText ts).length := by
  induction ts with
  | nil => simp
  | cons t ts ih =>
    have ht : 1 ≤ t.chars.length := by cases t <;> simp [Token.chars]
    simp only [List.length_cons, tokensText_cons, List.length_append]
    omega

/-- A loop over checks of repetitions only, each of which passes, passes. -/
theorem forIn_repetitions {l : List NodeCheck} (hl : ∀ c ∈ l, ∃ g, c = .repetition g)
    {f : NodeCheck → PUnit → ReadM (ForInStep PUnit)}
    (hf : ∀ g s, f (.repetition g) PUnit.unit s = .ok (.yield PUnit.unit, s)) (s : ReadState) :
    forIn l PUnit.unit f s = .ok (PUnit.unit, s) := by
  induction l with
  | nil => rfl
  | cons c l ih =>
    obtain ⟨g, rfl⟩ := hl c List.mem_cons_self
    rw [List.forIn_cons, ReadM.bind_ok (hf g s)]
    exact ih fun c hc => hl c (List.mem_cons_of_mem _ hc)

/-- Flags under which a pattern text is read as written, case included, and needs no other check:
not verbose, not a template, and not both ASCII and Unicode. -/
structure Regex.Flags.Plain (f : Flags) : Prop where
  ignoreCase : f.ignoreCase = false
  verbose : f.verbose = false
  template : f.template = false
  locale : f.locale = false
  notBoth : (f.ascii && f.unicode) = false

theorem GlobToken.patternTokens_ne_backslash (t : GlobToken) :
    ∀ u ∈ t.patternTokens, u ≠ .plain '\\' := by
  have hesc : ∀ c, escapedToken c ≠ .plain '\\' := fun c => escapedToken_ne_plain rfl
  have hunit : ∀ v : ClassUnit, v.token ≠ .plain '\\' := by
    intro v
    cases v with
    | dash => simp [ClassUnit.token]
    | plain c => exact hesc c
  cases t with
  | char c => simpa [patternTokens] using hesc c
  | star | one => simp [patternTokens]
  | cls neg units =>
    intro u hu
    simp only [patternTokens, List.mem_cons, List.mem_append, List.mem_map] at hu
    rcases hu with rfl | (hneg | ⟨v, -, rfl⟩) | rfl | hnil
    · simp
    · cases neg <;> simp_all
    · exact hunit v
    · simp
    · simp at hnil

/-- **A whole pattern text written from a glob's tokens is read**, under plain flags, unless a
class has a backwards range: into the nodes the tokens read as, opening no group, every check made
once the text is read passing. -/
theorem readPattern_globTokens (gs : List GlobToken) {text : String} {flags : Flags}
    (hf : flags.Plain) (hcls : ∀ neg, GlobToken.cls neg [] ∉ gs)
    (htext : text.toList = tokensText (gs.flatMap GlobToken.patternTokens)) :
    (HasReversedClass gs → ∃ e, readPattern (ReadState.initial text flags) = .error e) ∧
    (¬HasReversedClass gs → ∃ nodes s, readPattern (ReadState.initial text flags) = .ok (nodes, s) ∧
      List.Forall₂ GlobToken.ReadsAs gs nodes ∧ s.groups = 1) := by
  have hahead : Ahead (ReadState.initial text flags) (gs.flatMap GlobToken.patternTokens) := by
    refine ⟨by simp [ReadState.initial, htext], ?_⟩
    intro u hu
    obtain ⟨t, -, ht⟩ := List.mem_flatMap.mp hu
    exact t.patternTokens_ne_backslash u ht
  obtain ⟨s₁, hadv, hs₁, hk₁⟩ := advance_ahead hahead
  have hflags : s₁.flags = flags := hk₁.flags
  have hsize : (gs.flatMap GlobToken.patternTokens).length ≤ s₁.src.size := by
    rw [hk₁.src]
    show _ ≤ text.toList.toArray.size
    rw [List.size_toArray, htext]
    exact length_le_tokensText _
  have halt := @readAlternation_globTokens gs (8 * (s₁.src.size + 4)) s₁
    (by rw [hflags]; exact hf.ignoreCase) hcls (by omega) hs₁
  unfold readPattern
  rw [ReadM.bind_ok hadv, ReadM.bind_ok ReadM.get_run]
  dsimp only
  rw [hflags, hf.verbose]
  by_cases hr : HasReversedClass gs
  · obtain ⟨e, he⟩ := halt.1 hr
    exact ⟨fun _ => ⟨e, ReadM.bind_error he⟩, fun h => absurd hr h⟩
  refine ⟨fun h => absurd h hr, fun _ => ?_⟩
  obtain ⟨nodes, s₂, hread, hnodes, hs₂, hk₂⟩ := halt.2 hr
  have hk := hk₁.trans hk₂
  have hchecks := seqChecks_readsAs hnodes
  have htype : checkTypeFlags s₂.bytes s₂.flags s₂ = .ok ((), s₂) := by
    have hb : s₂.bytes = false := hk.bytes
    have hl : s₂.flags.locale = false := by rw [hk.flags]; exact hf.locale
    have hau : (s₂.flags.ascii && s₂.flags.unicode) = false := by rw [hk.flags]; exact hf.notBoth
    simp only [checkTypeFlags, hb, hl, hau, Bool.false_eq_true, ↓reduceIte]
    rfl
  have htemplate : s₂.flags.template = false := by
    rw [hk.flags]
    exact hf.template
  have hnext : s₂.next.isSome = false := by
    rw [hs₂.1]
    rfl
  rw [ReadM.bind_ok hread, ReadM.bind_ok ReadM.get_run, ReadM.bind_ok htype]
  simp only [hnext, hk.condRefs, Bool.false_eq_true, ↓reduceIte, ReadState.initial,
    List.forIn_nil]
  rw [ReadM.bind_ok ReadM.pure_run, ReadM.bind_ok (forIn_repetitions hchecks ?_ s₂),
    ReadM.bind_ok (forIn_repetitions hchecks ?_ s₂)]
  · exact ⟨nodes, s₂, rfl, hnodes, hk.groups⟩
  · intro g s
    rfl
  · intro g s
    simp only [htemplate, Bool.false_eq_true, ↓reduceIte]
    rfl

/-! ## Compiling the pattern text of a glob -/

theorem dotAll_plain : ({ dotAll := true } : Flags).Plain := ⟨rfl, rfl, rfl, rfl, rfl⟩

/-- **The pattern text of a glob compiles exactly when no class of the glob has a backwards
range**, into a pattern of the nodes the glob's tokens read as, with no group. -/
theorem compile_patternText {g : String} :
    (HasReversedClass (globTokens g.toList) →
      ∃ e, Pattern.compile (Glob.patternText g) { dotAll := true } = .error e) ∧
    (¬HasReversedClass (globTokens g.toList) →
      ∃ p, Pattern.compile (Glob.patternText g) { dotAll := true } = .ok p ∧
        List.Forall₂ GlobToken.ReadsAs (globTokens g.toList) p.nodes ∧ p.groups = 0 ∧
        p.isBytes = false) := by
  have h := readPattern_globTokens (globTokens g.toList) dotAll_plain
    (globTokens_cls_ne_nil g.toList) (Glob.patternText_toList g)
  refine ⟨fun hr => ?_, fun hr => ?_⟩
  · obtain ⟨e, he⟩ := h.1 hr
    simp only [Pattern.compile, StateT.run, he, Except.error.injEq, exists_eq']
  · obtain ⟨nodes, s, hok, hnodes, hgroups⟩ := h.2 hr
    simp only [Pattern.compile, StateT.run, hok, Except.ok.injEq, exists_eq_left', hgroups]
    exact ⟨hnodes, trivial, trivial⟩

end AccessLog

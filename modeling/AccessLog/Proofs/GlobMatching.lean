import AccessLog.Proofs.GlobPatterns

/-!
# Matching an entry name against a glob

A name is matched against a glob by compiling the glob's pattern text and asking the engine for a
match of the whole name. The pattern read from that text holds one node for each token of the glob
(`GlobToken.ReadsAs`): a node taking one character for a character, a `?` or a class, and a greedy
repetition of a node taking any character but `/` for a `*`. So the engine's run can be followed
token by token.

## The run

A node taking one character moves one place on when it takes the character there, and fails
otherwise (`run_atom`). A greedy repetition of such a node counts how many characters it takes in a
row from the current place, then tries the rest from the place after each count, the longest
first (`run_star_fst`); a count after which the next node, a plain character, cannot take the
character there is passed over without a try, which changes nothing, since that try would fail.
Whether a run finishes never depends on the registers, for no node of a glob reads or marks a
group: every statement about the run holds whatever the registers.

By induction on the tokens, a run of the nodes from a place, followed by the check that the text
ends there, finishes exactly when the tokens spell the rest of the text (`run_readsAs`), once its
depth bound exceeds the number of nodes by three; the bound the engine gives an attempt does.

## Main statements

* `run_readsAs`: the run of a glob's nodes follows the glob's tokens.
* `Regex.Pattern.fullMatch_readsAs`: a pattern of a glob's nodes matches a whole text exactly when
  the glob's tokens spell it.
* `matchEntryName_of_not_reversed`: matching a name against a glob with no backwards range answers
  whether the glob's tokens spell the name.
* `entry_glob_semantics`: matching an entry name against an accepted glob is matching it against
  the glob's reading.
-/

namespace AccessLog

open Regex

/-! ## The matcher of tokens, case by case -/

theorem matchTokens_single_cons {t : GlobToken} (ht : t ≠ .star) (ts : List GlobToken) (x : Char)
    (xs : List Char) : matchTokens (t :: ts) (x :: xs) = (t.accepts x && matchTokens ts xs) := by
  cases t with
  | star => exact absurd rfl ht
  | _ =>
    rw [matchTokens]
    exact ht

theorem matchTokens_single_nil {t : GlobToken} (ht : t ≠ .star) (ts : List GlobToken) :
    matchTokens (t :: ts) [] = false := by
  cases t with
  | star => exact absurd rfl ht
  | _ =>
    rw [matchTokens]
    exact ht

/-- A `*` takes some of the characters other than `/` that start the text, and the rest of the
tokens spell what follows them. -/
theorem matchTokens_star_iff (ts : List GlobToken) (xs : List Char) :
    matchTokens (.star :: ts) xs = true ↔
      ∃ c ≤ (xs.takeWhile (· != '/')).length, matchTokens ts (xs.drop c) = true := by
  induction xs with
  | nil =>
    rw [matchTokens]
    simp
  | cons x xs ih =>
    rw [matchTokens]
    simp only [Bool.or_eq_true, Bool.and_eq_true, ih]
    by_cases hx : (x != '/') = true
    · rw [List.takeWhile_cons_of_pos (p := fun y => y != '/') hx, List.length_cons]
      simp only [hx, true_and]
      constructor
      · rintro (h | ⟨c, hc, h⟩)
        · exact ⟨0, Nat.zero_le _, h⟩
        · exact ⟨c + 1, by omega, h⟩
      · rintro ⟨c, hc, h⟩
        cases c with
        | zero => exact .inl h
        | succ c => exact .inr ⟨c, by omega, h⟩
    · rw [List.takeWhile_cons_of_neg (p := fun y => y != '/') hx]
      simp [hx]

/-- The tokens other than `*` each take a character. -/
theorem length_le_of_matchTokens {ts : List GlobToken} {xs : List Char}
    (h : matchTokens ts xs = true) : (ts.filter (· != .star)).length ≤ xs.length := by
  fun_induction matchTokens ts xs with
  | case1 xs => simp
  | case2 ts xs ih₂ ih₁ =>
    have hfilter : (GlobToken.star :: ts).filter (· != .star) = ts.filter (· != .star) :=
      List.filter_cons_of_neg (by simp)
    rw [hfilter]
    rcases Bool.or_eq_true_iff.mp h with h | h
    · exact ih₂ h
    · cases xs with
      | nil => cases h
      | cons x rest =>
        simp only [Bool.and_eq_true] at h
        have := ih₁ h.2
        rw [hfilter] at this
        simp only [List.length_cons]
        omega
  | case3 t ts x rest ht ih =>
    simp only [Bool.and_eq_true] at h
    have := ih h.2
    rw [List.filter_cons_of_pos (p := fun u => u != GlobToken.star) (by simpa using ht)]
    simp only [List.length_cons]
    omega
  | case4 t ts ht => cases h

/-! ## The text from a place -/

variable {input : Array Char} {gw : GroupWidths}

theorem drop_toList_of_getElem? {pos : Nat} {x : Char} (h : input[pos]? = some x) :
    input.toList.drop pos = x :: input.toList.drop (pos + 1) := by
  rw [← Array.getElem?_toList] at h
  rw [List.drop_eq_getElem_cons (List.getElem?_eq_some_iff.mp h).1]
  simp [(List.getElem?_eq_some_iff.mp h).2]

theorem drop_toList_of_getElem?_none {pos : Nat} (h : input[pos]? = none) :
    input.toList.drop pos = [] := by
  rw [Array.getElem?_eq_none_iff] at h
  simp [h]

/-- A node taking the characters `p` accepts counts, from a place, the characters that start the
rest of the text and that `p` accepts. -/
theorem countRun_eq_length {n : Node} {p : Char → Bool} (hn : ∀ x, singleAccepts n x = some (p x))
    {pos limit : Nat} (hl : input.size - pos ≤ limit) :
    countRun input n pos limit = ((input.toList.drop pos).takeWhile p).length := by
  induction limit generalizing pos with
  | zero =>
    have hdrop : input.toList.drop pos = [] := by simp; omega
    simp [countRun, hdrop]
  | succ limit ih =>
    cases hx : input[pos]? with
    | none => simp [countRun, hx, drop_toList_of_getElem?_none hx]
    | some x =>
      have hlt : pos < input.size := (Array.getElem?_eq_some_iff.mp hx).1
      rw [countRun, hx, drop_toList_of_getElem? hx]
      dsimp only
      rw [hn x, ih (by omega)]
      cases hp : p x <;> simp [hp]

/-! ## The run, step by step -/

/-- The folds of a greedy repetition: each count tried adds its own outcome, whatever the
registers it is tried with. -/
theorem foldl_fst (p : Nat → Bool) {step : Bool × Registers → Nat → Bool × Registers}
    (h : ∀ acc d, (step acc d).1 = (acc.1 || p d)) (l : List Nat) (acc : Bool × Registers) :
    (l.foldl step acc).1 = (acc.1 || l.any p) := by
  induction l generalizing acc with
  | nil => simp
  | cons d l ih => rw [List.foldl_cons, ih, h, List.any_cons, Bool.or_assoc]

theorem ite_fst_eq (b : Bool) (x y : Registers) :
    (if b = true then (true, x) else (false, y)).1 = b := by
  cases b <;> rfl

/-- A node taking one character moves one place on when it takes the character there. -/
theorem run_atom {n : Node} (hn : n.IsAtom) (fuel : Nat) (rep : Bool) (rest : List Node)
    (k : List Step) (pos : Nat) (r : Registers) :
    run input gw (fuel + 1) rep (.seq (n :: rest) :: k) pos r =
      match input[pos]? with
      | some x =>
        if singleAccepts n x == some true then run input gw fuel rep (.seq rest :: k) (pos + 1) r
        else (false, r)
      | none => (false, r) := by
  rcases hn with ⟨c, neg, fl, rfl⟩ | ⟨items, neg, fl, rfl⟩ <;> rfl

/-- **A greedy repetition of a one-character node tries every count it can take**, the longest
first: it finishes exactly when the rest finishes after one of them. A count after which a plain
character next fails is passed over, which loses nothing. -/
theorem run_star_fst {n : Node} (hn : n.IsAtom) {fuel : Nat} {rep : Bool} {rest : List Node}
    {k : List Step} {pos : Nat} {r : Registers} {g : Nat → Bool} (hpos : pos ≤ input.size)
    (hg : ∀ c ≤ countRun input n pos input.size, ∀ r,
      (run input gw fuel rep (.seq rest :: k) (pos + c) r).1 = g c)
    (hblock : ∀ ch, ∀ c ≤ countRun input n pos input.size,
      rest.head?.bind Node.plainLiteral? = some ch → input[pos + c]? ≠ some ch → g c = false) :
    (run input gw (fuel + 1) rep (.seq (.rep 0 none .greedy [n] :: rest) :: k) pos r).1 =
      (List.range (countRun input n pos input.size + 1)).any
        fun d => g (countRun input n pos input.size - d) := by
  rcases hn with ⟨c, neg, fl, rfl⟩ | ⟨items, neg, fl, rfl⟩
  all_goals
    simp only [run]
    rw [if_neg (by omega), if_neg (by simp),
      foldl_fst (fun d => g (countRun input _ pos input.size - d))]
    · rfl
    · intro acc d
      split
      · rename_i ch hch
        split
        · rename_i h
          cases ha : acc.1
          · rw [ha, Bool.false_or] at h
            exact (hblock ch _ (Nat.sub_le _ _) hch (by rw [bne_iff_ne] at h; exact h)).symm
          · rfl
        · rename_i h
          simp only [Bool.or_eq_true, not_or, Bool.not_eq_true] at h
          rw [h.1, Bool.false_or, ite_fst_eq, hg]
          · rfl
          · exact Nat.sub_le _ _
      · split
        · rename_i h
          simp only [Bool.or_false] at h
          rw [h, Bool.true_or]
        · rename_i h
          simp only [Bool.or_false, Bool.not_eq_true] at h
          rw [h, Bool.false_or, ite_fst_eq, hg]
          · rfl
          · exact Nat.sub_le _ _

/-- A node compared as a plain character takes that character only. -/
theorem singleAccepts_of_plainLiteral {n : Node} {ch : Char} (h : n.plainLiteral? = some ch)
    (x : Char) : singleAccepts n x = some (x == ch) := by
  unfold Node.plainLiteral? at h
  split at h
  · rename_i c fl
    split at h
    · rename_i hc
      cases h
      simp [singleAccepts, charMatches, hc]
    · cases h
  · cases h

/-- After the count of a `*`, a next node compared as a plain character that cannot take the
character there leaves nothing for the rest of the tokens to spell. -/
theorem matchTokens_blocked {ts : List GlobToken} {nodes : List Node}
    (h : List.Forall₂ GlobToken.ReadsAs ts nodes) {ch : Char} {q : Nat}
    (hch : nodes.head?.bind Node.plainLiteral? = some ch) (hq : input[q]? ≠ some ch) :
    matchTokens ts (input.toList.drop q) = false := by
  cases h with
  | nil => cases hch
  | @cons t n ts nodes ht _ =>
    simp only [List.head?_cons, Option.bind_some] at hch
    cases ht with
    | star hn => cases hch
    | single hstar hn =>
      cases hx : input[q]? with
      | none => rw [drop_toList_of_getElem?_none hx, matchTokens_single_nil hstar]
      | some x =>
        have hacc : t.accepts x = (x == ch) :=
          Option.some.inj ((hn.accepts x).symm.trans (singleAccepts_of_plainLiteral hch x))
        have hne : x ≠ ch := fun hxc => hq (hxc ▸ hx)
        rw [drop_toList_of_getElem? hx, matchTokens_single_cons hstar, hacc]
        simp [hne]

/-- **The run of a glob's nodes follows the glob's tokens.** Run from place `pos` and followed by
the check that the text ends, the nodes the tokens read as finish exactly when the tokens spell
the rest of the text, whatever the registers, once the depth bound exceeds the number of nodes by
three. The induction is on the tokens, with the run's place and registers free. -/
theorem run_readsAs {ts : List GlobToken} {nodes : List Node}
    (h : List.Forall₂ GlobToken.ReadsAs ts nodes) {fuel : Nat} (hfuel : nodes.length + 3 ≤ fuel)
    (rep : Bool) {pos : Nat} (hpos : pos ≤ input.size) (r : Registers) :
    (run input gw fuel rep [.seq nodes, .endAt input.size] pos r).1 =
      matchTokens ts (input.toList.drop pos) := by
  induction h generalizing fuel pos r with
  | nil =>
    obtain ⟨f, rfl⟩ : ∃ f, fuel = f + 3 := ⟨fuel - 3, by simp at hfuel; omega⟩
    simp only [run, matchTokens_nil]
    rw [Bool.eq_iff_iff, List.isEmpty_iff, List.drop_eq_nil_iff, Array.length_toList]
    by_cases hp : pos = input.size
    · simp [hp]
    · rw [if_neg (by simpa using hp)]
      simp only [Bool.false_eq_true, false_iff, Nat.not_le]
      omega
  | @cons t n ts nodes ht hrest ih =>
    obtain ⟨f, rfl⟩ : ∃ f, fuel = f + 1 := ⟨fuel - 1, by simp at hfuel; omega⟩
    have hf : nodes.length + 3 ≤ f := by simp at hfuel; omega
    cases ht with
    | single hstar hn =>
      rw [run_atom hn.atom]
      cases hx : input[pos]? with
      | none => rw [drop_toList_of_getElem?_none hx, matchTokens_single_nil hstar]
      | some x =>
        have hlt : pos < input.size := (Array.getElem?_eq_some_iff.mp hx).1
        rw [drop_toList_of_getElem? hx, matchTokens_single_cons hstar]
        dsimp only
        rw [hn.accepts x]
        cases t.accepts x
        · rfl
        · simpa using ih hf (by omega) r
    | @star n hn =>
      have hcount : countRun input n pos input.size =
          ((input.toList.drop pos).takeWhile (· != '/')).length :=
        countRun_eq_length (fun x => hn.accepts x) (by omega)
      have hroom : countRun input n pos input.size ≤ input.size - pos := by
        rw [hcount]
        exact (List.takeWhile_sublist _).length_le.trans (by simp)
      rw [run_star_fst (g := fun c => matchTokens ts (input.toList.drop (pos + c))) hn.atom hpos
        (fun c hc r => ih hf (by omega) r) (fun ch c _ hch hq => matchTokens_blocked hrest hch hq)]
      rw [Bool.eq_iff_iff, List.any_eq_true, matchTokens_star_iff, ← hcount]
      simp only [List.mem_range, List.drop_drop]
      constructor
      · rintro ⟨d, hd, h⟩
        exact ⟨_, Nat.sub_le _ _, h⟩
      · rintro ⟨c, hc, h⟩
        refine ⟨countRun input n pos input.size - c, by omega, ?_⟩
        rwa [Nat.sub_sub_self hc]

/-! ## A whole match -/

theorem Regex.Node.cost_pos (k : Nat) (n : Node) : 0 < n.cost k := by
  cases n <;> simp [Node.cost]

theorem length_lt_seqCost (k : Nat) (nodes : List Node) : nodes.length < seqCost k nodes := by
  induction nodes with
  | nil => simp [seqCost]
  | cons n nodes ih =>
    have := n.cost_pos k
    simp only [List.length_cons, seqCost]
    omega

/-- The depth bound of an attempt leaves room for a run of the nodes and the end check. -/
theorem length_add_three_le_matchFuel (nodes : List Node) (input : Array Char) :
    nodes.length + 3 ≤ matchFuel nodes input := by
  have hcost := length_lt_seqCost input.size nodes
  have hscale : seqCost input.size nodes ≤
      64 * (input.size + 16) * (input.size + 16) * seqCost input.size nodes :=
    Nat.le_mul_of_pos_left _ (Nat.mul_pos (Nat.mul_pos (by decide) (by omega)) (by omega))
  unfold matchFuel
  omega

/-- The least width of a glob's nodes is the number of its tokens other than `*`. -/
theorem seqWidth_lo_readsAs {ts : List GlobToken} {nodes : List Node}
    (h : List.Forall₂ GlobToken.ReadsAs ts nodes) :
    (seqWidth gw nodes).lo = (ts.filter (· != .star)).length := by
  induction h with
  | nil => rfl
  | @cons t n ts nodes ht _ ih =>
    cases ht with
    | single hstar hn =>
      have hkeep : (t :: ts).filter (· != .star) = t :: ts.filter (· != .star) :=
        List.filter_cons_of_pos (by simpa using hstar)
      rcases hn.atom with ⟨c, neg, fl, rfl⟩ | ⟨items, neg, fl, rfl⟩ <;>
        simp [seqWidth, Node.width, Width.add, ih, hkeep] <;> omega
    | star hn => simp [seqWidth, Node.width, Width.add, Width.times, ih]

theorem Regex.Match.ofRegisters_zero (start : Nat) (r : Registers) :
    Match.ofRegisters 0 start r = .ok ⟨start, r.ptr, #[none]⟩ := rfl

/-- **A pattern of a glob's nodes matches a whole text exactly when the glob's tokens spell it.**
The match is tried only when the text is as long as the tokens other than `*`, which any text they
spell is. -/
theorem Regex.Pattern.fullMatch_readsAs {p : Pattern} {ts : List GlobToken}
    (h : List.Forall₂ GlobToken.ReadsAs ts p.nodes) (hgroups : p.groups = 0)
    (hbytes : p.isBytes = false) (name : String) :
    ∃ m, p.fullMatch name = .ok m ∧ m.isSome = matchTokens ts name.toList := by
  unfold Pattern.fullMatch
  simp only [hbytes, Bool.false_eq_true, if_false]
  split
  · rename_i hshort
    refine ⟨none, rfl, ?_⟩
    have hleast : p.least = (ts.filter (· != .star)).length := seqWidth_lo_readsAs h
    cases hm : matchTokens ts name.toList
    · rfl
    · have := length_le_of_matchTokens hm
      simp only [List.size_toArray] at hshort
      omega
  · have hrun := @run_readsAs name.toList.toArray p.widths ts p.nodes h _
      (length_add_three_le_matchFuel p.nodes name.toList.toArray) false 0 (Nat.zero_le _)
      ⟨0, Array.replicate (2 * p.groups) none, 0⟩
    rw [List.drop_zero, List.toList_toArray] at hrun
    unfold Pattern.matchAt
    simp only [if_true]
    revert hrun
    rcases run (name.toList.toArray) p.widths (matchFuel p.nodes name.toList.toArray) false
      [.seq p.nodes, .endAt name.toList.toArray.size] 0
      ⟨0, Array.replicate (2 * p.groups) none, 0⟩ with ⟨ok, r⟩
    intro hrun
    cases ok
    · exact ⟨none, rfl, hrun⟩
    · dsimp only
      rw [hgroups, Match.ofRegisters_zero]
      exact ⟨_, rfl, hrun⟩

/-! ## Matching an entry name -/

theorem matchEntryName_of_not_reversed {name g : String}
    (h : ¬HasReversedClass (globTokens g.toList)) :
    matchEntryName name g = .ok (matchTokens (globTokens g.toList) name.toList) := by
  obtain ⟨p, hp, hnodes, hgroups, hbytes⟩ := compile_patternText.2 h
  obtain ⟨m, hm, hsome⟩ := p.fullMatch_readsAs hnodes hgroups hbytes name
  simp only [matchEntryName, hp, hm, hsome]

theorem matchEntryName_of_reversed {name g : String} (h : HasReversedClass (globTokens g.toList)) :
    ∃ e, matchEntryName name g = .error e := by
  obtain ⟨e, he⟩ := compile_patternText.1 h
  simp only [matchEntryName, he, Except.error.injEq, exists_eq']

/-- A glob of one `*` selects every name without a slash. -/
theorem matchEntryValue_star {name : String} (h : '/' ∉ name.toList) :
    matchEntryValue name (.str "*") = .ok true := by
  have ht : globTokens "*".toList = [.star] := by with_unfolding_all rfl
  have hrev : ¬HasReversedClass (globTokens "*".toList) := by
    rw [ht]
    simp [HasReversedClass]
  have hall : (name.toList.takeWhile (· != '/')).length = name.toList.length := by
    rw [List.takeWhile_eq_self_iff.mpr fun c hc ↦ by simpa using ne_of_mem_of_not_mem hc h]
  rw [matchEntryValue, matchEntryName_of_not_reversed hrev, ht]
  congr 1
  exact (matchTokens_star_iff [] _).2 ⟨name.toList.length, hall.ge, by simp [matchTokens_nil]⟩

/-- **Matching an entry name against an accepted glob is matching it against the glob's
reading.** The glob has a reading, and no other; when no class of it has a backwards range,
matching answers whether the reading spells the whole name, and otherwise it fails. -/
theorem entry_glob_semantics {g : String} (hg : validateGlob g = .ok ()) (name : String) :
    (∃ ts, GlobReads g.toList ts) ∧
    ∀ ts, GlobReads g.toList ts →
      (¬HasReversedClass ts →
        ∀ b, matchEntryName name g = .ok b ↔ (b = true ↔ Spelled ts name.toList)) ∧
      (HasReversedClass ts → ∃ e, matchEntryName name g = .error e) := by
  refine ⟨⟨_, globReads_globTokens hg⟩, fun ts hts => ?_⟩
  obtain rfl := hts.eq_globTokens
  refine ⟨fun hr b => ?_, matchEntryName_of_reversed⟩
  rw [matchEntryName_of_not_reversed hr, Except.ok.injEq, ← matchTokens_iff, eq_comm,
    Bool.eq_iff_iff]

/-- The glob `[a-c]*.log` is accepted, and matching `b1.log` against it follows its reading. -/
theorem entry_glob_semantics_logs :
    validateGlob "[a-c]*.log" = .ok () ∧
    ((∃ ts, GlobReads "[a-c]*.log".toList ts) ∧
    ∀ ts, GlobReads "[a-c]*.log".toList ts →
      (¬HasReversedClass ts →
        ∀ b, matchEntryName "b1.log" "[a-c]*.log" = .ok b ↔ (b = true ↔ Spelled ts "b1.log".toList)) ∧
      (HasReversedClass ts → ∃ e, matchEntryName "b1.log" "[a-c]*.log" = .error e)) :=
  ⟨by with_unfolding_all rfl, entry_glob_semantics (by with_unfolding_all rfl) "b1.log"⟩

end AccessLog

import AccessLog.Proofs.FilterEvaluation
import AccessLog.Proofs.HandedNames

/-!
# Decoding by the first pattern that matches

A pattern decoder searches the line with each pattern of its set in order, and the first pattern
that finds a match builds the record: a field for each named group, in the order the groups are
opened, holding the text the group captured in that match, or the empty text for a group that took
no part (`FieldPattern.recordOf`). When no pattern finds a match the line is not decoded
(`decodeFirst_eq_none_iff`, `decodeFirst_eq_some_iff`).

The search of a pattern can also fail: the engine finds a match but cannot report the spans of its
groups. The decoder then raises the engine's error, so the line is neither decoded nor refused
(`decodeFirst_eq_error_iff`).

## Known fields and filters

The fields a decoded record carries are those of the pattern that built it, each once, and all are
fields of the set (`PatternSet.mem_fieldNames_iff`). Filters are compiled against the set's fields,
so a filter names a field of the set; on a decoded record a filter can find its field missing only
when the pattern that matched does not declare it (`allPass_fieldMissing`), and never when every
pattern of the set declares the same fields.

## Main statements

* `FieldPattern.get_recordOf`: each field holds the text its group captured.
* `decodeFirst_eq_some_iff`: the first pattern that matches builds the record.
* `PatternSet.mem_fieldNames_iff`: the fields of a set are the group names of its patterns.
* `Decoder.decode_first_match`: the contract of pattern decoding, as one statement.
-/

namespace AccessLog

open Regex Text

/-! ## The record of a match -/

/-- The record a field pattern builds from a match in a line: a field for each named group, in the
order the groups are opened, holding the text the group captured, or the empty text when it took no
part in the match. -/
def FieldPattern.recordOf (p : FieldPattern) (line : String) (m : Match) : Record :=
  ⟨p.pattern.names.map fun (name, i) => (name, (m.group? line i).getD "")⟩

namespace FieldPattern

variable {p : FieldPattern} {line : String}

theorem names_recordOf (m : Match) :
    (p.recordOf line m).names = p.names := by
  simp [recordOf, Record.names, names, Pattern.groupNames, Function.comp_def]

/-- The first field of a name, in fields whose names are distinct, is the field of that name. -/
theorem find?_of_nodup {fields : List (String × String)} (hnd : (fields.map (·.1)).Nodup)
    {name value : String} (hmem : (name, value) ∈ fields) :
    fields.find? (·.1 == name) = some (name, value) := by
  induction fields with
  | nil => cases hmem
  | cons f fs ih =>
    obtain ⟨hf, hfs⟩ := List.nodup_cons.mp hnd
    rcases List.mem_cons.mp hmem with rfl | hmem
    · simp
    · have hne : f.1 ≠ name := by
        rintro h
        apply hf
        show f.1 ∈ _
        rw [h]
        exact List.mem_map_of_mem (f := (·.1)) hmem
      simp [hne, ih hfs hmem]

/-- **Each field holds what its group captured.** The field of a named group holds the text the
group captured in the match, or the empty text when the group took no part in it. -/
theorem get_recordOf (m : Match) {name : String} {i : Nat} (hmem : (name, i) ∈ p.pattern.names) :
    (p.recordOf line m).get name = some ((m.group? line i).getD "") := by
  have hnd : ((p.recordOf line m).fields.map (·.1)).Nodup := by
    rw [← Record.names, names_recordOf]
    exact p.names_nodup
  have hfield : (name, (m.group? line i).getD "") ∈ (p.recordOf line m).fields :=
    List.mem_map.mpr ⟨(name, i), hmem, rfl⟩
  simp [Record.get, find?_of_nodup hnd hfield]

theorem decode_eq_none_iff : p.decode line = .ok none ↔ p.pattern.search line = .ok none := by
  unfold decode
  cases p.pattern.search line with
  | error e => simp
  | ok found => cases found <;> simp

theorem decode_eq_some_iff {r : Record} :
    p.decode line = .ok (some r) ↔
      ∃ m, p.pattern.search line = .ok (some m) ∧ r = p.recordOf line m := by
  unfold decode
  cases p.pattern.search line with
  | error e => simp
  | ok found => cases found <;> simp [recordOf, eq_comm]

theorem decode_eq_error_iff {e : Error} :
    p.decode line = .error e ↔ ∃ f, p.pattern.search line = .error f ∧ e = f.toError := by
  unfold decode
  cases p.pattern.search line with
  | error f => simp [eq_comm]
  | ok found => simp

end FieldPattern

/-! ## The first pattern that matches -/

section First

variable {line : String}

theorem decodeFirst_cons (p : FieldPattern) (ps : List FieldPattern) :
    decodeFirst line (p :: ps) =
      match p.decode line with
      | .ok (some r) => .ok (some r)
      | .ok none => decodeFirst line ps
      | .error e => .error e := rfl

/-- Patterns that find nothing are passed over. -/
theorem decodeFirst_append_of_none {pre post : List FieldPattern}
    (hpre : ∀ q ∈ pre, q.decode line = .ok none) :
    decodeFirst line (pre ++ post) = decodeFirst line post := by
  induction pre with
  | nil => rfl
  | cons q qs ih =>
    simp only [List.cons_append, decodeFirst_cons, hpre q List.mem_cons_self]
    exact ih fun x hx => hpre x (List.mem_cons_of_mem q hx)

/-- The first pattern that does not come back empty decides: its answer is the decoder's. -/
theorem decodeFirst_of_first {pre post : List FieldPattern} {p : FieldPattern}
    (hpre : ∀ q ∈ pre, q.decode line = .ok none) (hp : p.decode line ≠ .ok none) :
    decodeFirst line (pre ++ p :: post) = p.decode line := by
  rw [decodeFirst_append_of_none hpre, decodeFirst_cons]
  rcases hd : p.decode line with e | _ | r
  · rfl
  · exact absurd hd hp
  · rfl

/-- When the decoder does not come back empty, some pattern is the first not to. -/
theorem exists_first_of_ne_none {ps : List FieldPattern} (h : decodeFirst line ps ≠ .ok none) :
    ∃ (pre : List FieldPattern) (p : FieldPattern) (post : List FieldPattern),
      ps = pre ++ p :: post ∧ (∀ q ∈ pre, q.decode line = .ok none) ∧ p.decode line ≠ .ok none := by
  induction ps with
  | nil => exact absurd rfl h
  | cons q qs ih =>
    by_cases hq : q.decode line = .ok none
    · simp only [decodeFirst_cons, hq] at h
      obtain ⟨pre, p, post, rfl, hpre, hp⟩ := ih h
      refine ⟨q :: pre, p, post, rfl, ?_, hp⟩
      intro x hx
      exact (List.mem_cons.mp hx).elim (· ▸ hq) (hpre x)
    · exact ⟨[], q, qs, rfl, by simp, hq⟩

/-- A line is not decoded exactly when no pattern finds a match in it. -/
theorem decodeFirst_eq_none_iff {ps : List FieldPattern} :
    decodeFirst line ps = .ok none ↔ ∀ p ∈ ps, p.pattern.search line = .ok none := by
  induction ps with
  | nil => simp [decodeFirst]
  | cons p ps ih =>
    rw [decodeFirst_cons, List.forall_mem_cons, ← FieldPattern.decode_eq_none_iff, ← ih]
    rcases hd : p.decode line with e | _ | r <;> simp

theorem decode_none_of_search {pre : List FieldPattern}
    (hpre : ∀ q ∈ pre, q.pattern.search line = .ok none) : ∀ q ∈ pre, q.decode line = .ok none :=
  fun q hq => FieldPattern.decode_eq_none_iff.mpr (hpre q hq)

/-- **The first pattern that matches builds the record.** -/
theorem decodeFirst_eq_some_iff {ps : List FieldPattern} {r : Record} :
    decodeFirst line ps = .ok (some r) ↔
      ∃ (pre : List FieldPattern) (p : FieldPattern) (post : List FieldPattern) (m : Match),
        ps = pre ++ p :: post ∧ (∀ q ∈ pre, q.pattern.search line = .ok none) ∧
        p.pattern.search line = .ok (some m) ∧ r = p.recordOf line m := by
  constructor
  · intro h
    obtain ⟨pre, p, post, rfl, hpre, hp⟩ := exists_first_of_ne_none (by rw [h]; simp)
    rw [decodeFirst_of_first hpre hp] at h
    obtain ⟨m, hm, rfl⟩ := FieldPattern.decode_eq_some_iff.mp h
    exact ⟨pre, p, post, m, rfl, fun q hq => FieldPattern.decode_eq_none_iff.mp (hpre q hq), hm,
      rfl⟩
  · rintro ⟨pre, p, post, m, rfl, hpre, hm, rfl⟩
    have hd : p.decode line = .ok (some (p.recordOf line m)) :=
      FieldPattern.decode_eq_some_iff.mpr ⟨m, hm, rfl⟩
    rw [decodeFirst_of_first (decode_none_of_search hpre) (by rw [hd]; simp), hd]

/-- A line is neither decoded nor refused when the search of the first pattern that does not come
back empty fails: the decoder raises that search's error. -/
theorem decodeFirst_eq_error_iff {ps : List FieldPattern} {e : Error} :
    decodeFirst line ps = .error e ↔
      ∃ (pre : List FieldPattern) (p : FieldPattern) (post : List FieldPattern) (f : MatchFault),
        ps = pre ++ p :: post ∧ (∀ q ∈ pre, q.pattern.search line = .ok none) ∧
        p.pattern.search line = .error f ∧ e = f.toError := by
  constructor
  · intro h
    obtain ⟨pre, p, post, rfl, hpre, hp⟩ := exists_first_of_ne_none (by rw [h]; simp)
    rw [decodeFirst_of_first hpre hp] at h
    obtain ⟨f, hs, rfl⟩ := FieldPattern.decode_eq_error_iff.mp h
    exact ⟨pre, p, post, f, rfl, fun q hq => FieldPattern.decode_eq_none_iff.mp (hpre q hq), hs,
      rfl⟩
  · rintro ⟨pre, p, post, f, rfl, hpre, hs, rfl⟩
    have hd : p.decode line = .error f.toError := FieldPattern.decode_eq_error_iff.mpr ⟨f, hs, rfl⟩
    rw [decodeFirst_of_first (decode_none_of_search hpre) (by rw [hd]; simp), hd]

end First

/-! ## The fields of a set -/

namespace PatternSet

theorem mem_addNew {seen names : List String} {x : String} :
    x ∈ addNew seen names ↔ x ∈ seen ∨ x ∈ names := by
  induction names generalizing seen with
  | nil => simp [addNew]
  | cons n ns ih =>
    simp only [addNew, List.foldl_cons] at ih ⊢
    rw [ih]
    by_cases hn : seen.contains n = true
    · have : n ∈ seen := by simpa using hn
      simp only [hn, ↓reduceIte, List.mem_cons]
      constructor
      · rintro (h | h)
        · exact .inl h
        · exact .inr (.inr h)
      · rintro (h | rfl | h)
        · exact .inl h
        · exact .inl this
        · exact .inr h
    · simp only [hn, Bool.false_eq_true, ↓reduceIte, List.mem_append, List.mem_cons]
      tauto

/-- The fields of a set are the group names of its patterns. -/
theorem mem_fieldNames_iff {s : PatternSet} {x : String} :
    x ∈ s.fieldNames ↔ ∃ p ∈ s.patterns, x ∈ p.names := by
  have key : ∀ (ps : List FieldPattern) (acc : List String),
      x ∈ ps.foldl (fun acc p => addNew acc p.names) acc ↔ x ∈ acc ∨ ∃ p ∈ ps, x ∈ p.names := by
    intro ps
    induction ps with
    | nil => simp
    | cons p ps ih =>
      intro acc
      rw [List.foldl_cons, ih, mem_addNew]
      simp only [List.mem_cons, exists_eq_or_imp]
      tauto
  rw [fieldNames, key]
  simp

end PatternSet

/-! ## Filters on a decoded record -/

namespace Filter

theorem passes_fieldMissing {f : Filter} {r : Record} {n n' : Option Int} {fld ex s : String}
    (h : f.passes r n = .error (.line (.fieldMissing fld ex) n' s)) :
    fld = f.field ∧ r.get f.field = none := by
  unfold passes at h
  cases hg : r.get f.field with
  | none =>
    simp only [hg, Except.error.injEq, Error.line.injEq, LineFault.fieldMissing.injEq] at h
    exact ⟨h.1.1.symm, rfl⟩
  | some v =>
    simp only [hg] at h
    cases ht : f.test v with
    | ok b => simp [ht] at h
    | error fault => cases fault <;> simp [ht] at h

/-- A field is missing on a record only for a filter whose field the record lacks. -/
theorem allPass_fieldMissing {r : Record} {n n' : Option Int} {fs : List Filter}
    {fld ex s : String} (h : allPass r n fs = .error (.line (.fieldMissing fld ex) n' s)) :
    ∃ f ∈ fs, f.field = fld ∧ r.get fld = none := by
  have hne : allPass r n fs ≠ .ok true := by rw [h]; simp
  obtain ⟨pre, f, post, rfl, hpre, hf⟩ := exists_first_of_ne hne
  rw [allPass_of_first hpre hf] at h
  obtain ⟨rfl, hg⟩ := passes_fieldMissing h
  exact ⟨f, List.mem_append_right pre List.mem_cons_self, rfl, hg⟩

/-- A filter compiled against known fields reads one of them. -/
theorem field_mem_of_compileAll {ks : List String} {es : List String} {fs : List Filter}
    (h : compileAll (some ks) (es.map .str) = .ok fs) : ∀ f ∈ fs, f.field ∈ ks := by
  rw [compileAll_str_eq_ok_iff] at h
  induction h with
  | nil => simp
  | cons hx _ ih =>
    intro f hf
    rcases List.mem_cons.mp hf with rfl | hf
    · cases compile_eq_ok_iff.mp hx <;> simp_all
    · exact ih f hf

end Filter

theorem Record.get_eq_none_iff {r : Record} {x : String} : r.get x = none ↔ x ∉ r.names := by
  simp only [Record.get, Option.map_eq_none_iff, List.find?_eq_none, beq_iff_eq, Record.names,
    List.mem_map, not_exists, not_and]

/-! ## The contract of pattern decoding -/

namespace Decoder

variable {P : PatternSet} {line : String}

/-- On a record decoded by a set, a filter compiled against the set's fields finds its field
missing only when the pattern that built the record does not declare it. -/
theorem fieldMissing_undeclared {es : List String} {fs : List Filter} {r : Record}
    {n n' : Option Int} {fld ex s : String}
    (hfs : Filter.compileAll (some P.fieldNames) (es.map .str) = .ok fs)
    (hr : (Decoder.patterns P).decode line = .ok (some r))
    (h : Filter.allPass r n fs = .error (.line (.fieldMissing fld ex) n' s)) :
    ∃ p ∈ P.patterns, ∃ m, r = p.recordOf line m ∧ fld ∈ P.fieldNames ∧ fld ∉ p.names := by
  obtain ⟨f, hf, rfl, hg⟩ := Filter.allPass_fieldMissing h
  obtain ⟨pre, p, post, m, hps, -, -, rfl⟩ := decodeFirst_eq_some_iff.mp hr
  have hp : p ∈ P.patterns := hps ▸ List.mem_append_right pre List.mem_cons_self
  refine ⟨p, hp, m, rfl, Filter.field_mem_of_compileAll hfs f hf, ?_⟩
  rw [← FieldPattern.names_recordOf m]
  exact Record.get_eq_none_iff.mp hg

/-- When every pattern of a set declares the same fields, no filter compiled against them finds
its field missing on a decoded record. -/
theorem no_fieldMissing_of_same_names
    (hsame : ∀ p ∈ P.patterns, ∀ q ∈ P.patterns, ∀ x, x ∈ p.names → x ∈ q.names)
    {es : List String} {fs : List Filter} {r : Record} {n n' : Option Int} {fld ex s : String}
    (hfs : Filter.compileAll (some P.fieldNames) (es.map .str) = .ok fs)
    (hr : (Decoder.patterns P).decode line = .ok (some r)) :
    Filter.allPass r n fs ≠ .error (.line (.fieldMissing fld ex) n' s) := by
  intro h
  obtain ⟨p, hp, -, -, hfld, hnot⟩ := fieldMissing_undeclared hfs hr h
  obtain ⟨q, hq, hx⟩ := PatternSet.mem_fieldNames_iff.mp hfld
  exact hnot (hsame q hq p hp fld hx)

/-- **Pattern decoding.** A pattern decoder does not decode a line exactly when no pattern of its
set finds a match in it; otherwise the first pattern that does builds the record, unless the
engine cannot report the spans of that match, and then the line raises the engine's error. A record
built by a pattern carries that pattern's group names, each once and all fields of the set, the
decoder's known fields; each field holds what its group captured, or the empty text. Filters
compiled against the known fields find a field missing on a decoded record only when the pattern
that built it does not declare it, so never when all patterns declare the same fields. -/
theorem decode_first_match (P : PatternSet) (line : String) :
    ((Decoder.patterns P).decode line = .ok none ↔
      ∀ p ∈ P.patterns, p.pattern.search line = .ok none) ∧
    (∀ r, (Decoder.patterns P).decode line = .ok (some r) ↔
      ∃ (pre : List FieldPattern) (p : FieldPattern) (post : List FieldPattern) (m : Match),
        P.patterns = pre ++ p :: post ∧
        (∀ q ∈ pre, q.pattern.search line = .ok none) ∧
        p.pattern.search line = .ok (some m) ∧ r = p.recordOf line m) ∧
    (∀ e, (Decoder.patterns P).decode line = .error e ↔
      ∃ (pre : List FieldPattern) (p : FieldPattern) (post : List FieldPattern) (f : MatchFault),
        P.patterns = pre ++ p :: post ∧ (∀ q ∈ pre, q.pattern.search line = .ok none) ∧
        p.pattern.search line = .error f ∧ e = f.toError) ∧
    (Decoder.patterns P).knownFields = some P.fieldNames ∧
    (∀ p ∈ P.patterns, ∀ m, (p.recordOf line m).names = p.names ∧
      (p.recordOf line m).names.Nodup ∧ (∀ x ∈ (p.recordOf line m).names, x ∈ P.fieldNames) ∧
      ∀ name i, (name, i) ∈ p.pattern.names →
        (p.recordOf line m).get name = some ((m.group? line i).getD "")) ∧
    (∀ (es : List String) (fs : List Filter) (r : Record) (n n' : Option Int) (fld ex s : String),
      Filter.compileAll (some P.fieldNames) (es.map .str) = .ok fs →
      (Decoder.patterns P).decode line = .ok (some r) →
      Filter.allPass r n fs = .error (.line (.fieldMissing fld ex) n' s) →
      ∃ p ∈ P.patterns, ∃ m, r = p.recordOf line m ∧ fld ∈ P.fieldNames ∧ fld ∉ p.names) ∧
    ((∀ p ∈ P.patterns, ∀ q ∈ P.patterns, ∀ x, x ∈ p.names → x ∈ q.names) →
      ∀ (es : List String) (fs : List Filter) (r : Record) (n n' : Option Int) (fld ex s : String),
      Filter.compileAll (some P.fieldNames) (es.map .str) = .ok fs →
      (Decoder.patterns P).decode line = .ok (some r) →
      Filter.allPass r n fs ≠ .error (.line (.fieldMissing fld ex) n' s)) := by
  refine ⟨decodeFirst_eq_none_iff, fun _ => decodeFirst_eq_some_iff,
    fun _ => decodeFirst_eq_error_iff, rfl, ?_, fun _ _ _ _ _ _ _ _ hfs hr h =>
    fieldMissing_undeclared hfs hr h, fun hsame _ _ _ _ _ _ _ _ hfs hr =>
    no_fieldMissing_of_same_names hsame hfs hr⟩
  intro p hp m
  have hnames : (p.recordOf line m).names = p.names := FieldPattern.names_recordOf m
  refine ⟨hnames, hnames ▸ p.names_nodup, ?_, fun _ _ hmem => FieldPattern.get_recordOf m hmem⟩
  intro x hx
  exact PatternSet.mem_fieldNames_iff.mpr ⟨p, hp, hnames ▸ hx⟩

/-- **A match the engine cannot report is not decoded.** The pattern
`(?P<m>(?:(?:(?P<a>a)|b))*+)` compiles, with the fields `m` and `a`, and matches `abb` at the start
of `abbc`: the possessive repetition takes `a`, then `b` twice. The engine cannot report that
match, since it leaves the end of group `a` before its start, so the decoder raises the engine's
`SystemError` where the first-match rule would build the record `m: abb, a: a`. -/
theorem unreported_match_not_decoded :
    ∃ p, FieldPattern.compile "(?P<m>(?:(?:(?P<a>a)|b))*+)" = .ok p ∧ p.names = ["m", "a"] ∧
      (Decoder.patterns ⟨[p]⟩).decode "abbc" = .error .groupSpan ∧
      Error.groupSpan.kindName = "SystemError" := by
  have hknown : ((FieldPattern.compile "(?P<m>(?:(?:(?P<a>a)|b))*+)").toOption.map
      fun p => (p.names, p.pattern.search "abbc" matches .error .wrongSpan)) =
        some (["m", "a"], true) := by
    decide +kernel
  obtain ⟨p, hc, hp⟩ := ok_of_toOption_map hknown
  obtain ⟨hnames, hs⟩ := Prod.mk.inj hp
  have hwrong : p.pattern.search "abbc" = .error .wrongSpan := by
    revert hs
    cases p.pattern.search "abbc" with
    | ok m => simp
    | error f => cases f <;> simp
  have hdecode : (Decoder.patterns ⟨[p]⟩).decode "abbc" = .error .groupSpan :=
    decodeFirst_eq_error_iff.mpr ⟨[], p, [], .wrongSpan, rfl, by simp, hwrong, rfl⟩
  exact ⟨p, hc, hnames, hdecode, rfl⟩

end Decoder

end AccessLog

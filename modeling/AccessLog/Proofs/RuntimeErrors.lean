import AccessLog.Proofs.FirstMatch

/-!
# The errors a line can raise

A pipeline answers a line with an outcome or with an error. Its contract names the errors a line
may raise: a filter that cannot be applied, because the record lacks the filter's field or holds
no plain number where the filter compares numbers, and a handler that fails or answers something
other than text (`Error.isFilterOrHandlerError`).

Options without problems give labels that are all texts, so projecting a record onto them never
fails; and a created pipeline's filters are compiled, so each stops an evaluation only for the
reasons `Filter.Stops` lists. What is left beside the named errors is the engine's own
(`EngineFailure`): a pattern of the decoder whose search of the line fails, for a match whose group
spans the engine cannot report or for a pattern of a byte string given a text, or the pattern of a
filter meeting in a field's text a match it cannot report. That error escapes the contract
(`Pipeline.engine_error_escapes_line`).

The errors are the same along every session of lines and archive entries, going on after a line
that fails, since no call changes the decoder, the options or the filters.

## Main statements

* `Filter.allPass_error_cases`: the errors an evaluation of well-formed filters stops with.
* `Pipeline.LineContract.error_source`: where the error answering a line comes from.
* `Pipeline.process_error_cases`: the errors of one line.
* `Pipeline.validated_session_errors`: the errors of every line of every session of a pipeline
  built from options without problems.
* `Pipeline.engine_error_escapes_line`: the engine's error escapes the contract.
-/

namespace AccessLog

open Regex

/-- Whether an error is one a line is documented to raise: a filter that cannot be applied, for
a missing field or a text that is no plain number, or a handler that fails. -/
def Error.isFilterOrHandlerError (e : Error) : Bool :=
  e.kindName == "FieldMissingAtRuntimeError" || e.kindName == "NotNumericError" ||
    e.kindName == "HandlerError"

/-- The engine's own error answering a line: the error of a pattern of the decoder whose search of
the line fails, or the span error of a filter's pattern meeting in a text a match it cannot
report. -/
def EngineFailure (d : Decoder) (fs : List Filter) (line : String) (e : Error) : Prop :=
  (∃ s, d = .patterns s ∧ ∃ fp ∈ s.patterns, ∃ f, fp.pattern.search line = .error f ∧
    e = f.toError) ∨
    (e = .groupSpan ∧ ∃ f ∈ fs, ∃ q v, f.prepared = .regex q ∧ (q.search v).isOk = false)

/-! ## The decoder and the filters -/

/-- The decoder fails only on a line whose search by one of its patterns fails, with the error of
that search. -/
theorem Decoder.decode_error_cases {d : Decoder} {line : String} {e : Error}
    (h : d.decode line = .error e) :
    ∃ s, d = .patterns s ∧ ∃ fp ∈ s.patterns, ∃ f, fp.pattern.search line = .error f ∧
      e = f.toError := by
  cases d with
  | labeled fs vs => cases h
  | patterns s =>
    obtain ⟨pre, fp, post, f, hs, -, hsearch, rfl⟩ := decodeFirst_eq_error_iff.mp h
    exact ⟨s, rfl, fp, by simp [hs], f, hsearch, rfl⟩

namespace Filter

variable {r : Record} {n : Option Int} {fs : List Filter} {e : Error}

/-- The errors an evaluation of well-formed filters stops with: a missing field and a text that
is no plain number, both documented, or the engine's error for a match of a filter's pattern. -/
theorem allPass_error_cases (hfs : ∀ f ∈ fs, f.WellFormed) (h : allPass r n fs = .error e) :
    e.isFilterOrHandlerError = true ∨
      (e = .groupSpan ∧ ∃ f ∈ fs, ∃ q v, f.prepared = .regex q ∧ (q.search v).isOk = false) := by
  obtain ⟨pre, f, post, rfl, hpre, hf⟩ := exists_first_of_ne (by rw [h]; simp)
  have hmem : f ∈ pre ++ f :: post := List.mem_append_right pre List.mem_cons_self
  have hs := stops_passes (hfs f hmem) hf
  rw [← allPass_of_first hpre hf, h] at hs
  cases hs with
  | missing _ => exact .inl rfl
  | notNumeric _ _ _ => exact .inl rfl
  | wrongSpan _ hp hsearch => exact .inr ⟨rfl, f, hmem, _, _, hp, hsearch⟩

/-- Filters compiled from values are well formed. -/
theorem compileAll_wellFormed {known : Option (List String)} {vs : List Value} {fs : List Filter}
    (h : compileAll known vs = .ok fs) : ∀ f ∈ fs, f.WellFormed := by
  rw [compileAll_eq_mapM, mapM_eq_ok_iff] at h
  induction h with
  | nil => simp
  | @cons v f vs fs hv _ ih =>
    intro g hg
    rcases List.mem_cons.mp hg with rfl | hg
    · cases v with
      | str s => exact compile_wellFormed hv
      | _ => cases hv
    · exact ih g hg

end Filter

namespace Pipeline

variable {p : Pipeline} {c : Nat} {entry : Option String} {first : Bool} {line : String}
  {r : Except Error Outcome} {e : Error}

/-! ## One line -/

/-- **Where the error answering a line comes from**: the decoder, the filters, the projection of
the record onto the labels, or the handler, which either failed or answered something other than
text. -/
theorem LineContract.error_source (h : LineContract p c entry first line r) (he : r = .error e) :
    p.decoder.decode line = .error e ∨
      (∃ rec, Filter.allPass rec (some (c : Int)) p.filters = .error e) ∨
      (∃ rec, p.shape rec c = .error e) ∨
      (∃ m, e = .line (.formatFailed m) (some c) line) ∨
      ∃ k, e = .line (.formatNotText k) (some c) line := by
  subst he
  cases hl : listedToSkip p.options.skipLines c with
  | true => cases h.skip hl
  | false =>
    cases hd : p.decoder.decode line with
    | error e' =>
      cases h.decode_error hl e' hd
      exact .inl rfl
    | ok found =>
      cases found with
      | none => cases h.refused hl hd
      | some rec =>
        cases hf : Filter.allPass rec (some (c : Int)) p.filters with
        | error e' =>
          cases h.filter_error hl rec e' hd hf
          exact .inr (.inl ⟨rec, hf⟩)
        | ok pass =>
          cases pass with
          | false => cases h.excluded hl rec hd hf
          | true =>
            cases hs : p.shape rec c with
            | error e' =>
              cases h.shape_error hl rec e' hd hf hs
              exact .inr (.inr (.inl ⟨rec, hs⟩))
            | ok rec' =>
              have hh := h.handed hl rec rec' hd hf hs
              cases hc : p.options.handler.call rec'.names rec'.values c p.options.lineNumber first
                with
              | text s => simp [hc, replyAnswer] at hh
              | failed m =>
                simp only [hc, replyAnswer, Except.error.injEq] at hh
                exact .inr (.inr (.inr (.inl ⟨m, hh⟩)))
              | other k =>
                simp only [hc, replyAnswer, Except.error.injEq] at hh
                exact .inr (.inr (.inr (.inr ⟨k, hh⟩)))

/-- A pipeline whose labels are all texts and whose filters are well formed. -/
structure Sound (p : Pipeline) : Prop where
  labels : ∃ names : List String, p.options.labels = names.map Value.str
  filters : ∀ f ∈ p.filters, f.WellFormed

/-- **The errors of one line.** A sound pipeline answers a line with a documented error, or with
the engine's own. -/
theorem process_error_cases (hp : p.Sound) (he : (p.process line).2 = .error e) :
    e.isFilterOrHandlerError = true ∨ EngineFailure p.decoder p.filters line e := by
  obtain ⟨names, hn⟩ := hp.labels
  rcases (process_contract p line).error_source he with hd | ⟨rec, hf⟩ | ⟨rec, hs⟩ | ⟨m, rfl⟩ |
    ⟨k, rfl⟩
  · exact .inr (.inl (Decoder.decode_error_cases hd))
  · rcases Filter.allPass_error_cases hp.filters hf with h | ⟨rfl, hm⟩
    · exact .inl h
    · exact .inr (.inr ⟨rfl, hm⟩)
  · rw [shape_of_texts p names hn] at hs
    cases hs
  · exact .inl rfl
  · exact .inl rfl

theorem Sound.call (hp : p.Sound) (c : Call) : (p.call c).1.Sound := by
  cases c with
  | line l => exact ⟨by simpa [Pipeline.call] using hp.labels, by simpa [Pipeline.call] using hp.filters⟩
  | entry n => exact ⟨hp.labels, hp.filters⟩

@[simp] theorem decoder_call (p : Pipeline) (c : Call) : (p.call c).1.decoder = p.decoder := by
  cases c <;> simp [Pipeline.call, startEntry]

@[simp] theorem filters_call (p : Pipeline) (c : Call) : (p.call c).1.filters = p.filters := by
  cases c <;> simp [Pipeline.call, startEntry]

/-- Every line of a session of a sound pipeline answers with a documented error, if any, or with
the engine's own. -/
theorem session_error_cases (hp : p.Sound) (calls : List Call) {l : String}
    (h : (Call.line l, some (.error e)) ∈ calls.zip (p.session calls).2) :
    e.isFilterOrHandlerError = true ∨ EngineFailure p.decoder p.filters l e := by
  induction calls generalizing p with
  | nil => simp [session] at h
  | cons c cs ih =>
    simp only [session, List.zip_cons_cons, List.mem_cons, Prod.mk.injEq] at h
    rcases h with ⟨rfl, ha⟩ | h
    · simp only [Pipeline.call, Option.some.injEq] at ha
      exact process_error_cases hp ha.symm
    · simpa using ih (hp.call c) h

/-! ## Pipelines built from validated options -/

/-- A label without problem is a non-empty text. -/
theorem labelProblem_eq_none {v : Value} (h : labelProblem v = none) : ∃ s, v = .str s := by
  cases v with
  | str s => exact ⟨s, rfl⟩
  | _ => cases h

theorem exists_map_str {vs : List Value} (h : ∀ v ∈ vs, ∃ s, v = .str s) :
    ∃ names : List String, vs = names.map Value.str := by
  induction vs with
  | nil => exact ⟨[], rfl⟩
  | cons v vs ih =>
    obtain ⟨s, rfl⟩ := h v List.mem_cons_self
    obtain ⟨names, rfl⟩ := ih fun w hw => h w (List.mem_cons_of_mem _ hw)
    exact ⟨s :: names, rfl⟩

/-- Options without problems have labels that are all texts. -/
theorem labels_of_problems {o : Options} (h : o.problems = []) :
    ∃ names : List String, o.labels = names.map Value.str := by
  simp only [Options.problems, List.append_eq_nil_iff, List.filterMap_eq_nil_iff] at h
  exact exists_map_str fun v hv => labelProblem_eq_none (h.1.1.2 v hv)

/-- A created pipeline holds the decoder and the options, and filters compiled from them. -/
theorem create_filters {d : Decoder} {o : Options} (h : Pipeline.create d o = .ok p) :
    p.decoder = d ∧ p.options = o ∧ ∀ f ∈ p.filters, f.WellFormed := by
  obtain ⟨hd, ho, -⟩ := Pipeline.create_fresh h
  refine ⟨hd, ho, ?_⟩
  unfold Pipeline.create at h
  cases hk : o.skipLines.findSome? Value.unhashableKind with
  | some k =>
    simp only [hk, bind, Except.bind] at h
    split at h
    · cases h
    · split at h <;> cases h
  | none =>
    simp only [hk, bind, Except.bind, pure, Except.pure] at h
    split at h
    · cases h
      simp
    · split at h
      · cases h
      · rename_i fs hfs
        cases h
        exact Filter.compileAll_wellFormed hfs

/-- **Validated options leave the documented runtime errors and the engine's.** Take a pipeline
built from any decoder and options without problems. Along every session of lines and archive
entries, in any order and going on after a line that fails, every line answers with an outcome, or
with a filter error (a missing field or a text that is no plain number) or a handler error; or
else with the engine's own: the error of a decoder's pattern whose search of the line fails, or the
span error of a filter's pattern meeting a match it cannot report. -/
theorem validated_session_errors (d : Decoder) (o : Options) (ho : o.problems = []) (p : Pipeline)
    (hp : Pipeline.create d o = .ok p) (calls : List Call) (l : String) (e : Error)
    (h : (Call.line l, some (.error e)) ∈ calls.zip (p.session calls).2) :
    e.isFilterOrHandlerError = true ∨ EngineFailure d p.filters l e := by
  obtain ⟨hd, hopt, hwf⟩ := create_filters hp
  have hsound : p.Sound := ⟨hopt ▸ labels_of_problems ho, hwf⟩
  rw [← hd]
  exact session_error_cases hsound calls h

/-! ## A match the engine cannot report -/

/-- A pipeline decoding with one pattern, with the default options and no filter, answers a line
whose search by the pattern fails with the engine's error. -/
theorem session_unreported {fp : FieldPattern} {line : String} {f : MatchFault}
    (hs : fp.pattern.search line = .error f) :
    (({ decoder := .patterns ⟨[fp]⟩, options := {}, filters := [] } : Pipeline).session
      [.line line]).2 = [some (.error f.toError)] := by
  have hd : (Decoder.patterns ⟨[fp]⟩).decode line = .error f.toError :=
    decodeFirst_eq_error_iff.mpr ⟨[], fp, [], f, rfl, by simp, hs, rfl⟩
  simp only [session, Pipeline.call, List.cons.injEq, Option.some.injEq, and_true]
  rw [process_of_decode_error _ line rfl hd]

/-- The pattern `(?P<m>(?:(?:(?P<a>a)|b))*+)` compiles, and meets in `abbc` a match it cannot
report: the possessive repetition takes `a`, then `b` twice, and leaves the end of group `a`
before its start. -/
theorem unreported_pattern :
    ∃ fp, FieldPattern.compile "(?P<m>(?:(?:(?P<a>a)|b))*+)" = .ok fp ∧
      fp.pattern.search "abbc" = .error .wrongSpan := by
  have h : ((FieldPattern.compile "(?P<m>(?:(?:(?P<a>a)|b))*+)").toOption.map
      fun fp => fp.pattern.search "abbc" matches .error .wrongSpan) = some true := by
    decide +kernel
  obtain ⟨fp, hc, hs⟩ := ok_of_toOption_map h
  refine ⟨fp, hc, ?_⟩
  revert hs
  cases fp.pattern.search "abbc" with
  | ok m => simp
  | error f => cases f <;> simp

/-- The pipeline decoding with `(?P<m>(?:(?:(?P<a>a)|b))*+)` under the default options, which have
no problem, reading the line `abbc`: the hypotheses hold, and the line's error is the engine's,
with the decoder's pattern meeting a match it cannot report. -/
theorem validated_session_errors_unreported :
    ∃ fp, FieldPattern.compile "(?P<m>(?:(?:(?P<a>a)|b))*+)" = .ok fp ∧
      ∃ p, ({} : Options).problems = [] ∧ Pipeline.create (.patterns ⟨[fp]⟩) {} = .ok p ∧
        (Call.line "abbc", some (.error .groupSpan)) ∈
          [Call.line "abbc"].zip (p.session [.line "abbc"]).2 ∧
        (Error.groupSpan.isFilterOrHandlerError = true ∨
          EngineFailure (.patterns ⟨[fp]⟩) p.filters "abbc" .groupSpan) := by
  obtain ⟨fp, hc, hs⟩ := unreported_pattern
  have hp : Pipeline.create (.patterns ⟨[fp]⟩) {} =
      .ok { decoder := .patterns ⟨[fp]⟩, options := {}, filters := [] } := rfl
  have hmem : (Call.line "abbc", some (.error .groupSpan)) ∈ [Call.line "abbc"].zip
      (({ decoder := .patterns ⟨[fp]⟩, options := {}, filters := [] } : Pipeline).session
        [.line "abbc"]).2 := by
    rw [session_unreported hs]
    simp [Regex.MatchFault.toError]
  exact ⟨fp, hc, _, rfl, hp, hmem,
    validated_session_errors _ {} rfl _ hp [.line "abbc"] "abbc" .groupSpan hmem⟩

/-- **The engine's error escapes the contract.** A pipeline decoding with the pattern
`(?P<m>(?:(?:(?P<a>a)|b))*+)`, built from the default options, which have no problem, answers the
line `abbc` with the engine's `SystemError`, where the decoder would have found the record
`m: abb, a: a`. That error is neither a filter error nor a handler error. -/
theorem engine_error_escapes_line :
    ∃ fp, FieldPattern.compile "(?P<m>(?:(?:(?P<a>a)|b))*+)" = .ok fp ∧
      ∃ p, ({} : Options).problems = [] ∧ Pipeline.create (.patterns ⟨[fp]⟩) {} = .ok p ∧
        (p.session [.line "abbc"]).2 = [some (.error .groupSpan)] ∧
        Error.groupSpan.kindName = "SystemError" ∧ Error.groupSpan.isFilterOrHandlerError = false := by
  obtain ⟨fp, hc, hs⟩ := unreported_pattern
  exact ⟨fp, hc, _, rfl, rfl, session_unreported hs, rfl, rfl⟩

end Pipeline

end AccessLog

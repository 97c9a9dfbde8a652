import AccessLog.Pipeline

/-!
# The contract of one line, and sessions of calls

A pipeline answers a line by a chain of decisions taken in a fixed order: the skip list, the
decoder, the filters, the projection of the record, the handler. `LineContract` writes that chain
down as a specification of the answer alone, given four things the pipeline keeps between calls:
the line number `c`, the archive entry being read, and whether no record was written before.

## The state between calls

The pipeline keeps three pieces of state with different rules: a line, even one that fails,
advances the count; starting an entry resets the count and names the entry; only a line that is
written clears the first-record flag, which nothing sets again. A *session* is any sequence of
line and entry calls, going on after a line that fails. `session_fst` computes the state after a
session from the calls and answers alone, so that every line of every session answers as the
contract says with the count, entry and flag its history gives (`session_line_contract`).

## Main statements

* `Pipeline.process_fst`: what one line does to the state.
* `Pipeline.process_contract`: one line answers as the contract says, read with the state.
* `Pipeline.session_fst`: the state after a session.
* `Pipeline.session_line_contract`: every line of a session answers as the contract says.
-/

namespace AccessLog

/-! ## The errors a line can stop with

The decoder fails only when a search gives no answer, and a pattern filter only when a match
cannot be reported; the other filter errors name the line they were given. -/

/-- The error of a search without an answer is the engine's, or a type error. -/
theorem Regex.MatchFault.toError_cases (f : Regex.MatchFault) :
    f.toError = .groupSpan ∨ ∃ v, f.toError = .value v := by
  cases f
  · exact .inl rfl
  · exact .inr ⟨_, rfl⟩

theorem decodeFirst_error {line : String} {ps : List FieldPattern} {e : Error}
    (h : decodeFirst line ps = .error e) : ∃ f : Regex.MatchFault, e = f.toError := by
  induction ps with
  | nil => cases h
  | cons q qs ih =>
    unfold decodeFirst at h
    split at h
    · cases h
    · exact ih h
    · rename_i e' he
      cases h
      unfold FieldPattern.decode at he
      split at he
      · cases he
        exact ⟨_, rfl⟩
      · cases he

theorem Decoder.decode_error {d : Decoder} {line : String} {e : Error}
    (h : d.decode line = .error e) : ∃ f : Regex.MatchFault, e = f.toError := by
  cases d with
  | patterns s => exact decodeFirst_error h
  | labeled fs vs => cases h

theorem Filter.passes_error {f : Filter} {r : Record} {n : Option Int} {e : Error}
    (h : f.passes r n = .error e) : e = .groupSpan ∨ ∃ g s, e = .line g n s := by
  unfold passes at h
  split at h
  · cases h; exact .inr ⟨_, _, rfl⟩
  · split at h
    · cases h
    · cases h; exact .inr ⟨_, _, rfl⟩
    · cases h; exact .inl rfl

theorem Filter.allPass_error {r : Record} {n : Option Int} {fs : List Filter} {e : Error}
    (h : allPass r n fs = .error e) : e = .groupSpan ∨ ∃ g s, e = .line g n s := by
  induction fs with
  | nil => cases h
  | cons f fs ih =>
    simp only [allPass, bind, Except.bind] at h
    split at h
    · cases h; exact Filter.passes_error ‹_›
    · split at h
      · exact ih h
      · cases h

namespace Pipeline

/-- Projecting a record fails only on a label that cannot be hashed. -/
theorem shape_error_value {p : Pipeline} {r : Record} {n : Nat} {e : Error}
    (h : p.shape r n = .error e) : ∃ v, e = .value v := by
  unfold Pipeline.shape at h
  cases hl : p.options.labels.isEmpty with
  | true => simp [hl, pure, Except.pure, bind, Except.bind] at h
  | false =>
    cases hs : selectLabels r p.options.labels with
    | ok r' => simp [hl, hs, pure, Except.pure, bind, Except.bind] at h
    | error e' =>
      simp only [hl, hs, Bool.false_eq_true, ↓reduceIte, bind, Except.bind] at h
      cases h
      unfold selectLabels at hs
      split at hs
      · cases hs; exact ⟨_, rfl⟩
      · cases hs

/-- Whether an answer to a line is a written record. -/
def recordWritten : Except Error Outcome → Bool
  | .ok o => o.status == .matched
  | .error _ => false

/-- The text written for a record the handler wrote as `s`: every line of it marked when lines
are marked. -/
def matchedOutput (o : Options) (s : String) : String := if o.marked then markLines s else s

/-- The text written for an unmatched line, if unmatched lines are written. -/
def unmatchedOutput (o : Options) (line : String) : Option String :=
  if o.emitUnmatched then some ((if o.marked then unmatchedMark else "") ++ line) else none

/-- What a handler's reply makes of line `c`: text is written, marked when lines are marked, and
anything else stops the line at its number. -/
def replyAnswer (o : Options) (c : Nat) (line : String) : Reply → Except Error Outcome
  | .text s => .ok { status := .matched, lineNumber := c, output := some (matchedOutput o s) }
  | .failed m => .error (.line (.formatFailed m) (some c) line)
  | .other k => .error (.line (.formatNotText k) (some c) line)

/-! ## One equation per branch

Each lemma below is one way a line can end; together they cover every line. The pipeline a line
leaves behind is the one it met with its count advanced, and also with the first-record flag
cleared when the line is written. -/

section Branches

variable (p : Pipeline) (line : String)

theorem process_of_listed (h : listedToSkip p.options.skipLines (p.count + 1) = true) :
    p.process line =
      ({ p with count := p.count + 1 },
        .ok { status := .skipped, lineNumber := ((p.count + 1 : Nat) : Int) }) := by
  simp only [process, h, ↓reduceIte]

theorem process_of_decode_error {e : Error}
    (h : listedToSkip p.options.skipLines (p.count + 1) = false)
    (hd : p.decoder.decode line = .error e) :
    p.process line = ({ p with count := p.count + 1 }, .error e) := by
  simp [process, h, hd]

theorem process_of_refused (h : listedToSkip p.options.skipLines (p.count + 1) = false)
    (hd : p.decoder.decode line = .ok none) :
    p.process line = ({ p with count := p.count + 1 },
      .ok { status := .unmatched, lineNumber := ((p.count + 1 : Nat) : Int),
            output := unmatchedOutput p.options line,
            audit := some { lineNumber := ((p.count + 1 : Nat) : Int), line := line,
                            entry := p.entry } }) := by
  simp only [process, h, hd, unmatchedOutput, Bool.false_eq_true, ↓reduceIte]

theorem process_of_filter_error {r : Record} {e : Error}
    (h : listedToSkip p.options.skipLines (p.count + 1) = false)
    (hd : p.decoder.decode line = .ok (some r))
    (hf : Filter.allPass r (some ((p.count + 1 : Nat) : Int)) p.filters = .error e) :
    p.process line = ({ p with count := p.count + 1 }, .error e) := by
  simp only [process, h, hd, hf, Bool.false_eq_true, ↓reduceIte]

theorem process_of_excluded {r : Record}
    (h : listedToSkip p.options.skipLines (p.count + 1) = false)
    (hd : p.decoder.decode line = .ok (some r))
    (hf : Filter.allPass r (some ((p.count + 1 : Nat) : Int)) p.filters = .ok false) :
    p.process line =
      ({ p with count := p.count + 1 },
        .ok { status := .excluded, lineNumber := ((p.count + 1 : Nat) : Int) }) := by
  simp only [process, h, hd, hf, Bool.false_eq_true, ↓reduceIte]

theorem process_of_passed {r : Record}
    (h : listedToSkip p.options.skipLines (p.count + 1) = false)
    (hd : p.decoder.decode line = .ok (some r))
    (hf : Filter.allPass r (some ((p.count + 1 : Nat) : Int)) p.filters = .ok true) :
    p.process line = ({ p with count := p.count + 1 }).emit r (p.count + 1) line := by
  simp only [process, h, hd, hf, Bool.false_eq_true, ↓reduceIte]

variable {p line} {r r' : Record} {n : Nat}

theorem emit_of_shape_error {e : Error} (h : p.shape r n = .error e) :
    p.emit r n line = (p, .error e) := by
  simp [emit, h]

theorem emit_snd_of_shaped (h : p.shape r n = .ok r') :
    (p.emit r n line).2 = replyAnswer p.options n line
      (p.options.handler.call r'.names r'.values n p.options.lineNumber p.firstRecord) := by
  cases hc : p.options.handler.call r'.names r'.values n p.options.lineNumber p.firstRecord <;>
    simp [emit, h, hc, replyAnswer, matchedOutput]

end Branches

/-! ## What one line does to the state -/

theorem emit_fst (p : Pipeline) (r : Record) (n : Nat) (line : String) :
    (p.emit r n line).1 =
      { p with firstRecord := p.firstRecord && !recordWritten (p.emit r n line).2 } := by
  unfold emit
  split
  · simp [recordWritten]
  · split <;> simp [recordWritten]

/-- A line advances the count, whatever becomes of it, and clears the first-record flag exactly
when it is written. -/
theorem process_fst (p : Pipeline) (line : String) :
    (p.process line).1 =
      { p with count := p.count + 1,
               firstRecord := p.firstRecord && !recordWritten (p.process line).2 } := by
  unfold process
  simp only
  split
  · simp [recordWritten]
  · split
    · simp [recordWritten]
    · simp [recordWritten]
    · split
      · simp [recordWritten]
      · simp [recordWritten]
      · exact emit_fst _ _ _ _

section Frame

variable (p : Pipeline) (line : String)

@[simp] theorem decoder_process : (p.process line).1.decoder = p.decoder := by rw [process_fst]

@[simp] theorem options_process : (p.process line).1.options = p.options := by rw [process_fst]

@[simp] theorem filters_process : (p.process line).1.filters = p.filters := by rw [process_fst]

@[simp] theorem entry_process : (p.process line).1.entry = p.entry := by rw [process_fst]

end Frame

/-! ## The contract -/

/-- The contract of one line: what the answer `r` to `line` must be when it is read as line `c`
of the archive entry `entry`, `first` telling whether no record was written before it. Of `p`
only the decoder, the options and the filters are read. -/
structure LineContract (p : Pipeline) (c : Nat) (entry : Option String) (first : Bool)
    (line : String) (r : Except Error Outcome) : Prop where
  /-- A listed line is skipped, before the decoder, the filters and the handler are asked. -/
  skip : listedToSkip p.options.skipLines c = true →
    r = .ok { status := .skipped, lineNumber := c }
  /-- A line the decoder fails on stops with its error. -/
  decode_error : listedToSkip p.options.skipLines c = false → ∀ e,
    p.decoder.decode line = .error e → r = .error e
  /-- A line the decoder refuses is unmatched: its audit entry names it, and it is written only
  when unmatched lines are. -/
  refused : listedToSkip p.options.skipLines c = false → p.decoder.decode line = .ok none →
    r = .ok { status := .unmatched, lineNumber := c, output := unmatchedOutput p.options line,
              audit := some { lineNumber := c, line := line, entry := entry } }
  /-- A filter that cannot be applied stops the line with its error. -/
  filter_error : listedToSkip p.options.skipLines c = false → ∀ rec e,
    p.decoder.decode line = .ok (some rec) →
    Filter.allPass rec (some (c : Int)) p.filters = .error e → r = .error e
  /-- A record the filters reject is excluded. -/
  excluded : listedToSkip p.options.skipLines c = false → ∀ rec,
    p.decoder.decode line = .ok (some rec) →
    Filter.allPass rec (some (c : Int)) p.filters = .ok false →
    r = .ok { status := .excluded, lineNumber := c }
  /-- A record that cannot be projected onto the labels stops the line. -/
  shape_error : listedToSkip p.options.skipLines c = false → ∀ rec e,
    p.decoder.decode line = .ok (some rec) →
    Filter.allPass rec (some (c : Int)) p.filters = .ok true → p.shape rec c = .error e →
    r = .error e
  /-- Otherwise the handler is asked once, with the projected record, the line number and
  `first`, and its reply decides. -/
  handed : listedToSkip p.options.skipLines c = false → ∀ rec rec',
    p.decoder.decode line = .ok (some rec) →
    Filter.allPass rec (some (c : Int)) p.filters = .ok true → p.shape rec c = .ok rec' →
    r = replyAnswer p.options c line
      (p.options.handler.call rec'.names rec'.values c p.options.lineNumber first)

/-- With text labels, the record handed to the handler is the decoded one projected onto the
labels, in label order and without the labels it lacks, then led by the line number when asked. -/
theorem shape_of_texts (p : Pipeline) (names : List String)
    (h : p.options.labels = names.map Value.str) (r : Record) (n : Nat) :
    p.shape r n =
      .ok (let r := if names.isEmpty then r else r.select names
           if p.options.lineNumber then r.withLineNumber n else r) := by
  have hfind : (names.map Value.str).findSome? Value.unhashableKind = none := by
    simp [List.findSome?_eq_none_iff, Value.unhashableKind, Value.unhashableKindIn]
  cases hn : names.isEmpty with
  | true =>
    rw [List.isEmpty_iff.mp hn] at h
    simp [shape, h, pure, Except.pure, bind, Except.bind]
  | false =>
    simp only [shape, selectLabels, h, hfind, hn, List.isEmpty_map, Bool.false_eq_true,
      ↓reduceIte, pure, Except.pure, bind, Except.bind, List.filterMap_map, Function.comp_def]
    simp

/-- The contract holds of every line, read with the pipeline's own count, entry and flag. -/
theorem process_contract (p : Pipeline) (line : String) :
    LineContract p (p.count + 1) p.entry p.firstRecord line (p.process line).2 where
  skip h := by rw [process_of_listed p line h]
  decode_error h e hd := by rw [process_of_decode_error p line h hd]
  refused h hd := by rw [process_of_refused p line h hd]
  filter_error h rec e hd hf := by rw [process_of_filter_error p line h hd hf]
  excluded h rec hd hf := by rw [process_of_excluded p line h hd hf]
  shape_error h rec e hd hf hs := by
    rw [process_of_passed p line h hd hf, emit_of_shape_error (p := { p with count := p.count + 1 }) hs]
  handed h rec rec' hd hf hs := by
    rw [process_of_passed p line h hd hf, emit_snd_of_shaped (p := { p with count := p.count + 1 }) hs]

section Contract

variable {p : Pipeline} {c : Nat} {entry : Option String} {first : Bool} {line : String}
  {r : Except Error Outcome}

/-- The contract reads only the decoder, the options and the filters. -/
theorem LineContract.of_parts {q : Pipeline} (h : LineContract p c entry first line r)
    (hd : q.decoder = p.decoder) (ho : q.options = p.options) (hf : q.filters = p.filters) :
    LineContract q c entry first line r := by
  obtain ⟨d, o, fs, n, e, f⟩ := p
  obtain ⟨d', o', fs', n', e', f'⟩ := q
  cases hd
  cases ho
  cases hf
  exact ⟨h.skip, h.decode_error, h.refused, h.filter_error, h.excluded, h.shape_error, h.handed⟩

/-- The answers the contract allows: one outcome per status, or an error that is either a match
that cannot be reported, an error of a value (a label that cannot be hashed, a pattern of a byte
string), or an error naming the line. -/
theorem LineContract.cases (h : LineContract p c entry first line r) :
    r = .ok { status := .skipped, lineNumber := c } ∨
    r = .ok { status := .unmatched, lineNumber := c, output := unmatchedOutput p.options line,
              audit := some { lineNumber := c, line := line, entry := entry } } ∨
    r = .ok { status := .excluded, lineNumber := c } ∨
    (∃ s, r = .ok { status := .matched, lineNumber := c,
                    output := some (matchedOutput p.options s) }) ∨
    ∃ e, r = .error e ∧ (e = .groupSpan ∨ (∃ v, e = .value v) ∨ ∃ f s, e = .line f (some c) s) := by
  cases hl : listedToSkip p.options.skipLines c with
  | true => exact .inl (h.skip hl)
  | false =>
    cases hd : p.decoder.decode line with
    | error e =>
      obtain ⟨f, rfl⟩ := Decoder.decode_error hd
      refine .inr (.inr (.inr (.inr ⟨_, h.decode_error hl _ hd, ?_⟩)))
      rcases f.toError_cases with h' | h'
      · exact .inl h'
      · exact .inr (.inl h')
    | ok found =>
      cases found with
      | none => exact .inr (.inl (h.refused hl hd))
      | some rec =>
        cases hf : Filter.allPass rec (some (c : Int)) p.filters with
        | error e =>
          refine .inr (.inr (.inr (.inr ⟨e, h.filter_error hl rec e hd hf, ?_⟩)))
          rcases Filter.allPass_error hf with rfl | ⟨g, s, rfl⟩
          · exact .inl rfl
          · exact .inr (.inr ⟨g, s, rfl⟩)
        | ok pass =>
          cases pass with
          | false => exact .inr (.inr (.inl (h.excluded hl rec hd hf)))
          | true =>
            cases hs : p.shape rec c with
            | error e =>
              obtain ⟨v, rfl⟩ := shape_error_value hs
              exact .inr (.inr (.inr (.inr ⟨_, h.shape_error hl rec _ hd hf hs, .inr (.inl ⟨v, rfl⟩)⟩)))
            | ok rec' =>
              rw [h.handed hl rec rec' hd hf hs]
              cases p.options.handler.call rec'.names rec'.values c p.options.lineNumber first with
              | text s => exact .inr (.inr (.inr (.inl ⟨s, rfl⟩)))
              | failed m => exact .inr (.inr (.inr (.inr ⟨_, rfl, .inr (.inr ⟨_, _, rfl⟩)⟩)))
              | other k => exact .inr (.inr (.inr (.inr ⟨_, rfl, .inr (.inr ⟨_, _, rfl⟩)⟩)))

/-- Every outcome carries the line's number. -/
theorem LineContract.lineNumber_eq (h : LineContract p c entry first line r) {o : Outcome}
    (ho : r = .ok o) : o.lineNumber = c := by
  rcases h.cases with rfl | rfl | rfl | ⟨s, rfl⟩ | ⟨e, rfl, -⟩ <;> first | cases ho; rfl | cases ho

/-- Every error naming a line names this one. -/
theorem LineContract.error_line (h : LineContract p c entry first line r) {f : LineFault}
    {n : Option Int} {s : String} (he : r = .error (.line f n s)) : n = some c := by
  rcases h.cases with rfl | rfl | rfl | ⟨_, rfl⟩ | ⟨e, rfl, he'⟩
  all_goals cases he
  rcases he' with he' | ⟨v, he'⟩ | ⟨g, t, he'⟩ <;> cases he'
  rfl

end Contract

/-! ## Sessions -/

/-- A call made on a pipeline. -/
inductive Call where
  /-- Carry a line through the pipeline. -/
  | line (text : String)
  /-- Start an archive entry. -/
  | entry (name : Option String)

/-- Makes one call; a line is answered with its outcome or its error, an entry start with
nothing. -/
def call (p : Pipeline) : Call → Pipeline × Option (Except Error Outcome)
  | .line l => ((p.process l).1, some (p.process l).2)
  | .entry e => (p.startEntry e, none)

/-- Makes calls in order, going on after a line that fails, and gives the answers in order. -/
def session (p : Pipeline) : List Call → Pipeline × List (Option (Except Error Outcome))
  | [] => (p, [])
  | c :: cs => (((p.call c).1.session cs).1, (p.call c).2 :: ((p.call c).1.session cs).2)

namespace Call

/-- The count after calls, starting from `n`: a line adds one, an entry start resets it. -/
def countAfter (n : Nat) : List Call → Nat
  | [] => n
  | .line _ :: cs => countAfter (n + 1) cs
  | .entry _ :: cs => countAfter 0 cs

/-- The entry after calls, starting from `e`: the last one started. -/
def entryAfter (e : Option String) : List Call → Option String
  | [] => e
  | .line _ :: cs => entryAfter e cs
  | .entry e' :: cs => entryAfter e' cs

/-- The lines of calls, each with the count and the entry it is read with, starting from the count
`n` and the entry `e`: a line counts one on, an entry start begins a new count for its entry. -/
def numberedLines : Nat → Option String → List Call → List (String × Nat × Option String)
  | _, _, [] => []
  | n, e, .line l :: cs => (l, n + 1, e) :: numberedLines (n + 1) e cs
  | _, _, .entry e :: cs => numberedLines 0 e cs

theorem numberedLines_lines (n : Nat) (e : Option String) (ls : List String) (cs : List Call) :
    numberedLines n e (ls.map .line ++ cs) =
      (ls.zipIdx (n + 1)).map (fun y ↦ (y.1, y.2, e)) ++ numberedLines (n + ls.length) e cs := by
  induction ls generalizing n with
  | nil => rfl
  | cons l ls ih =>
    rw [List.map_cons, List.cons_append, numberedLines, ih, List.zipIdx_cons, List.map_cons,
      List.cons_append]
    rw [List.length_cons, show n + (ls.length + 1) = n + 1 + ls.length by omega]

end Call

/-- The state after a session is given by its history: the lines since the last entry start, the
last entry started, and whether some line was written. -/
theorem session_fst (p : Pipeline) (calls : List Call) :
    (p.session calls).1 =
      { p with count := Call.countAfter p.count calls, entry := Call.entryAfter p.entry calls,
               firstRecord := p.firstRecord && !(p.session calls).2.any (·.any recordWritten) } := by
  induction calls generalizing p with
  | nil => simp [session, Call.countAfter, Call.entryAfter]
  | cons c cs ih =>
    cases c with
    | line l =>
      simp only [session, call]
      rw [ih, process_fst]
      simp [Call.countAfter, Call.entryAfter, Bool.and_assoc]
    | entry e =>
      simp only [session, call]
      rw [ih]
      simp [startEntry, Call.countAfter, Call.entryAfter]

/-- Every line of every session answers as the contract says, read as the line after the last
entry start, of that entry, and as the first record exactly when no line before it was written,
in this entry or an earlier one. The outcome and any error that names a line carry its number. -/
theorem session_line_contract (d : Decoder) (o : Options) (fs : List Filter) (calls : List Call)
    (line : String) :
    let p₀ : Pipeline := { decoder := d, options := o, filters := fs }
    let c := Call.countAfter 0 calls + 1
    let r := ((p₀.session calls).1.process line).2
    LineContract p₀ c (Call.entryAfter none calls)
        (!(p₀.session calls).2.any (·.any recordWritten)) line r ∧
      (∀ out, r = .ok out → out.lineNumber = c) ∧
      (∀ f n s, r = .error (.line f n s) → n = some c) := by
  intro p₀ c r
  have h : LineContract p₀ c (Call.entryAfter none calls)
      (!(p₀.session calls).2.any (·.any recordWritten)) line r := by
    have hs := session_fst p₀ calls
    have hp := process_contract (p₀.session calls).1 line
    rw [show (p₀.session calls).1.count = Call.countAfter 0 calls by rw [hs],
      show (p₀.session calls).1.entry = Call.entryAfter none calls by rw [hs],
      show (p₀.session calls).1.firstRecord = !(p₀.session calls).2.any (·.any recordWritten) by
        rw [hs, Bool.true_and]] at hp
    exact hp.of_parts (by rw [hs]) (by rw [hs]) (by rw [hs])
  exact ⟨h, fun out ho => h.lineNumber_eq ho, fun f n s he => h.error_line he⟩

end Pipeline

end AccessLog

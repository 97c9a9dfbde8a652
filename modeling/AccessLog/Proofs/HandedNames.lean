import AccessLog.Proofs.LabeledRoundTrip

/-!
# The names handed to a handler

A decoded record reaches its handler projected onto the labels, if any are given, and led by its
line number when asked (`Pipeline.shape`). The decoders never repeat a name: a pattern's group
names are distinct by construction, since the reader refuses a name already given when it opens a
named group, and the label decoder refuses a label met twice on a line (`Decoder.decode_nodup`).

The projection and the line number do not keep that. The projection reads one field for each
label given, so a label given twice is handed twice when the record carries it; the line number is
handed as a field `no` beside any field of that name the record keeps. The check of the options
looks at neither. So the names handed over are distinct exactly when the labels the record carries
are given once each and, with line numbers, no field kept is called `no`
(`Pipeline.handed_names`). When they are, the JSON object of the record has one member per field
handed over, in order, the line number first. When a label is given twice, the object has one
member for the two fields (`Pipeline.repeated_label_handed_twice`).

## Main statements

* `Decoder.decode_nodup`: a decoded record never repeats a name.
* `Record.names_select`: the names of a projection onto labels.
* `mergeRepeated_of_nodup`: pairs with distinct names are their own object.
* `Pipeline.handed_names`: the names handed to the handler, and when they are distinct.
* `Pipeline.repeated_label_handed_twice`: a label given twice is handed twice.
-/

namespace AccessLog

open Regex Number

/-! ## Decoded records -/

theorem FieldPattern.names_nodup (p : FieldPattern) : p.names.Nodup := p.pattern.names_nodup

/-- A pattern decodes a line into a field per group, named as the group is. -/
theorem FieldPattern.decode_names {p : FieldPattern} {line : String} {r : Record}
    (h : p.decode line = .ok (some r)) : r.names = p.names := by
  unfold FieldPattern.decode at h
  split at h
  · cases h
  · rename_i found _
    cases found with
    | none => cases h
    | some m =>
      cases h
      simp [Record.names, FieldPattern.names, Pattern.groupNames, Function.comp_def]

theorem decodeFirst_nodup {line : String} {ps : List FieldPattern} {r : Record}
    (h : decodeFirst line ps = .ok (some r)) : r.names.Nodup := by
  induction ps with
  | nil => cases h
  | cons p ps ih =>
    unfold decodeFirst at h
    split at h
    · rename_i r' hr
      cases h
      rw [FieldPattern.decode_names hr]
      exact p.names_nodup
    · exact ih h
    · cases h

/-- A decoded record never repeats a name. -/
theorem Decoder.decode_nodup {d : Decoder} {line : String} {r : Record}
    (h : d.decode line = .ok (some r)) : r.names.Nodup := by
  cases d with
  | patterns s => exact decodeFirst_nodup h
  | labeled fs vs => exact decodeLabeled_nodup fs vs line r (Except.ok.inj h)

/-- The label decoder reads a record written with its own separators back. -/
theorem Decoder.decode_labeledLine {r : Record} (hr : r.Readable '\t' ':') :
    (Decoder.labeled labeledFieldSeparator labeledValueSeparator).decode
      (r.labeledLine labeledFieldSeparator labeledValueSeparator) = .ok (some r) :=
  congrArg Except.ok (decodeLabeled_labeledLine labeledFieldSeparator_toList
    labeledValueSeparator_toList (by decide) hr)

/-! ## Projections onto labels -/

theorem Record.isSome_lastValue (r : Record) (l : String) :
    (r.lastValue l).isSome = r.contains l := by
  rw [Bool.eq_iff_iff]
  simp [Record.lastValue, Record.contains]

/-- A projection keeps, in label order, each label the record carries, as often as it is
given. -/
theorem Record.names_select (r : Record) (labels : List String) :
    (r.select labels).names = labels.filter r.contains := by
  induction labels with
  | nil => rfl
  | cons l ls ih =>
    simp only [Record.select, Record.names, List.filterMap_cons] at ih ⊢
    rw [List.filter_cons, ← r.isSome_lastValue l]
    cases r.lastValue l with
    | none => simpa using ih
    | some v => simpa using ih

/-- The names a record keeps under labels given as texts: its own when there are none, and
otherwise each label it carries, in label order, as often as the label is given. -/
def keptNames (labels : List String) (r : Record) : List String :=
  if labels.isEmpty then r.names else labels.filter r.contains

/-- The labels of options that are texts. -/
def Options.labelTexts (o : Options) : List String :=
  o.labels.filterMap fun | .str s => some s | _ => none

/-- Options that pass their check give every label as text. -/
theorem Options.labels_eq_of_problems {o : Options} (h : o.problems = []) :
    o.labels = o.labelTexts.map Value.str := by
  have hl : ∀ v ∈ o.labels, labelProblem v = none := by
    simp only [Options.problems, List.append_eq_nil_iff, List.filterMap_eq_nil_iff] at h
    exact h.1.1.2
  unfold Options.labelTexts
  generalize o.labels = vs at hl ⊢
  induction vs with
  | nil => rfl
  | cons v vs ih =>
    have hv := hl v List.mem_cons_self
    have hrest := ih fun u hu ↦ hl u (List.mem_cons_of_mem v hu)
    cases v with
    | str s =>
      rw [List.filterMap_cons]
      exact congrArg (Value.str s :: ·) hrest
    | _ => simp [labelProblem] at hv

/-! ## Objects of distinct names -/

/-- A fold that adds each pair whose name it does not hold yet, over pairs of distinct names,
adds them all. -/
theorem foldl_append_fresh {f : List (String × String) → String × String → List (String × String)}
    (hf : ∀ acc kv, kv.1 ∉ acc.map (·.1) → f acc kv = acc ++ [kv])
    {acc ps : List (String × String)} (h : ((acc ++ ps).map (·.1)).Nodup) :
    ps.foldl f acc = acc ++ ps := by
  induction ps generalizing acc with
  | nil => simp
  | cons kv ps ih =>
    have hfresh : kv.1 ∉ acc.map (·.1) := by
      rw [List.map_append, List.nodup_append] at h
      exact fun hm ↦ h.2.2 _ hm _ List.mem_cons_self rfl
    rw [List.foldl_cons, hf acc kv hfresh, ih (by simpa using h)]
    simp

/-- Pairs with distinct names are their own object. -/
theorem mergeRepeated_of_nodup {ps : List (String × String)} (h : (ps.map (·.1)).Nodup) :
    mergeRepeated ps = ps := by
  rw [mergeRepeated]
  refine (foldl_append_fresh ?_ (by simpa using h)).trans (List.nil_append ps)
  rintro acc ⟨k, v⟩ hk
  have hany : (acc.any fun x ↦ x.1 == k) = false := by
    rw [Bool.eq_false_iff]
    intro ha
    obtain ⟨x, hx, hxk⟩ := List.any_eq_true.mp ha
    exact hk (List.mem_map.mpr ⟨x, hx, by simpa using hxk⟩)
  simp only [hany, Bool.false_eq_true, if_false]

/-! ## What the handler is handed -/

namespace Pipeline

variable {p : Pipeline}

/-- With options that pass their check, a record is handed over as its kept names, led by the
line number's field when asked. -/
theorem shape_names (hp : p.options.problems = []) (r : Record) (n : Nat) :
    ∃ r', p.shape r n = .ok r' ∧
      r'.names = (if p.options.lineNumber then [lineNumberField] else []) ++
        keptNames p.options.labelTexts r ∧
      (p.options.lineNumber = true → r'.fields.head? = some (lineNumberField, intText n)) := by
  refine ⟨_, shape_of_texts p _ (Options.labels_eq_of_problems hp) r n, ?_, ?_⟩
  · cases hl : p.options.lineNumber <;> cases he : p.options.labelTexts.isEmpty <;>
      simp [keptNames, he, Record.names_withLineNumber, Record.names_select]
  · intro hl
    simp [hl, Record.withLineNumber]

/-- **The names handed to the handler.** With options that pass their check, a decoded record
is handed over as its kept names (`keptNames`), led by the line number's field when asked. These
are distinct exactly when every label the record carries is given once and, with line numbers, no
field kept is called `no`. Then the JSON object of the record has one member per field handed
over, in order, and with line numbers the first is the line number. -/
theorem handed_names (hp : p.options.problems = []) {line : String} {r : Record}
    (hd : p.decoder.decode line = .ok (some r)) (n : Nat) :
    ∃ r', p.shape r n = .ok r' ∧
      r'.names = (if p.options.lineNumber then [lineNumberField] else []) ++
        keptNames p.options.labelTexts r ∧
      (r'.names.Nodup ↔ (p.options.labelTexts.filter r.contains).Nodup ∧
        (p.options.lineNumber = true → lineNumberField ∉ keptNames p.options.labelTexts r)) ∧
      (r'.names.Nodup → pairObject r'.names r'.values = Json.ofStrings r'.fields ∧
        (p.options.lineNumber = true → r'.fields.head? = some (lineNumberField, intText n))) := by
  obtain ⟨r', hs, hnames, hhead⟩ := shape_names hp r n
  have hkept : (keptNames p.options.labelTexts r).Nodup ↔
      (p.options.labelTexts.filter r.contains).Nodup := by
    cases he : p.options.labelTexts.isEmpty
    · simp [keptNames, he]
    · simp [keptNames, List.isEmpty_iff.mp he, Decoder.decode_nodup hd]
  refine ⟨r', hs, hnames, ?_, fun hnd ↦ ⟨?_, hhead⟩⟩
  · rw [hnames, ← hkept]
    cases p.options.lineNumber <;> simp [List.nodup_cons, and_comm]
  · have hzip : r'.names.zip r'.values = r'.fields := (List.zip_of_prod rfl rfl).symm
    rw [pairObject, hzip, mergeRepeated_of_nodup hnd]

/-- Two labels, the line number, and a line carrying both labels. -/
theorem handed_names_two_labels :
    let p : Pipeline :=
      { decoder := .labeled labeledFieldSeparator labeledValueSeparator,
        options := { labels := [.str "b", .str "a"], lineNumber := true }, filters := [] }
    let r : Record := ⟨[("a", "1"), ("b", "2")]⟩
    p.options.problems = [] ∧ p.decoder.decode "a:1\tb:2" = .ok (some r) ∧
      ∃ r', p.shape r 7 = .ok r' ∧
        r'.names = (if p.options.lineNumber then [lineNumberField] else []) ++
          keptNames p.options.labelTexts r ∧
        (r'.names.Nodup ↔ (p.options.labelTexts.filter r.contains).Nodup ∧
          (p.options.lineNumber = true → lineNumberField ∉ keptNames p.options.labelTexts r)) ∧
        (r'.names.Nodup → pairObject r'.names r'.values = Json.ofStrings r'.fields ∧
          (p.options.lineNumber = true → r'.fields.head? = some (lineNumberField, intText 7))) := by
  intro p r
  have hp : p.options.problems = [] := rfl
  have hr : r.Readable '\t' ':' := ⟨by simp [r], by decide, by decide, by decide, by decide⟩
  have hline : r.labeledLine labeledFieldSeparator labeledValueSeparator = "a:1\tb:2" := by decide
  have hd : p.decoder.decode "a:1\tb:2" = .ok (some r) := by
    rw [← hline]
    exact Decoder.decode_labeledLine hr
  exact ⟨hp, hd, handed_names hp hd 7⟩

/-- **A label given twice is handed twice.** The options that label the field `a` twice pass
their check, and the record of the line `a:1` is handed over as two fields `a`; the JSON object
of the two is one member. -/
theorem repeated_label_handed_twice :
    let p : Pipeline :=
      { decoder := .labeled labeledFieldSeparator labeledValueSeparator,
        options := { labels := [.str "a", .str "a"] }, filters := [] }
    let r : Record := ⟨[("a", "1")]⟩
    p.options.problems = [] ∧ p.decoder.decode "a:1" = .ok (some r) ∧
      p.shape r 1 = .ok ⟨[("a", "1"), ("a", "1")]⟩ ∧ ¬["a", "a"].Nodup ∧
      pairObject ["a", "a"] ["1", "1"] = Json.ofStrings [("a", "1")] := by
  intro p r
  have hr : r.Readable '\t' ':' := ⟨by simp [r], by decide, by decide, by decide, by decide⟩
  have hline : r.labeledLine labeledFieldSeparator labeledValueSeparator = "a:1" := by decide
  have hd : p.decoder.decode "a:1" = .ok (some r) := by
    rw [← hline]
    exact Decoder.decode_labeledLine hr
  have hs : p.shape r 1 = .ok ⟨[("a", "1"), ("a", "1")]⟩ := by
    rw [shape_of_texts p ["a", "a"] rfl r 1]
    rfl
  exact ⟨rfl, hd, hs, by decide, rfl⟩

end Pipeline

end AccessLog

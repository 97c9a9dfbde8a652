import AccessLog.Proofs.LineSources
import AccessLog.Proofs.LineErrors

/-!
# Labeled text read back

The label decoder reads exactly the lines a record's fields make when each is written as its
name, the value separator and its value, and they are joined by the field separator. With
one-character separators, a line decodes to a record exactly when it is written so from the
record, the record has a field, and its names are non-empty, distinct and hold neither separator
while its values hold no field separator (`decodeLabeled_eq_some_iff`). The labeled format writes
a record that way, its empty values replaced by the empty mark, so a decoded record written out
decodes again, to itself with its empty values marked, and is written out the same
(`decodeLabeled_labeledText`). Writing and decoding are inverse on their domains: fields fit for
a labeled line decode from their labeled text to themselves with their empty values marked, and a
line that decodes is written back as itself with its empty values marked
(`labeled_write_decode_inverse`).

The labeled parser that writes its records as labeled text therefore reads its own output back
unchanged: every line of the output decodes, and is written as it was read. Each line of a text
loses one final carriage return when it is read; a line still ending in one after that would lose
it on the second reading, so no line of the text may end in two.

## Main statements

* `Text.cutFirst_eq_some_iff`: cutting a text at a one-character separator.
* `decodeLabeled_eq_some_iff`: the lines the label decoder reads, and how.
* `decodeLabeled_labeledText`: a decoded record, written as labeled text, decodes again.
* `labeled_write_decode_inverse`: the labeled format and the label decoder are inverse.
* `Parser.labeledEcho_parseText`: what the labeled parser writing labeled text does with a text.
* `Parser.labeledEcho_output_fixed`: its output is a fixed point of parsing.
-/

namespace AccessLog

open Text

namespace Text

/-! ## One-character separators -/

section Joined

variable {α : Type} {x : α} {sep : List α} {ls : List (List α)}

/-- What a joined list holds comes from the separator or from one of the pieces. -/
theorem mem_of_mem_intercalate (h : x ∈ sep.intercalate ls) : x ∈ sep ∨ ∃ l ∈ ls, x ∈ l := by
  induction ls with
  | nil => simp at h
  | cons l ls ih =>
    cases ls with
    | nil => exact .inr ⟨l, by simp, by simpa using h⟩
    | cons l' ls =>
      rw [List.intercalate_cons_cons, List.mem_append, List.mem_append] at h
      rcases h with (h | h) | h
      · exact .inr ⟨l, by simp, h⟩
      · exact .inl h
      · rcases ih h with h | ⟨m, hm, hx⟩
        · exact .inl h
        · exact .inr ⟨m, List.mem_cons_of_mem l hm, hx⟩

theorem mem_intercalate_of_mem {l : List α} (hl : l ∈ ls) (hx : x ∈ l) :
    x ∈ sep.intercalate ls := by
  induction ls with
  | nil => simp at hl
  | cons m ls ih =>
    cases ls with
    | nil =>
      rw [List.mem_singleton] at hl
      simpa [hl] using hx
    | cons m' ls =>
      rw [List.intercalate_cons_cons, List.mem_append, List.mem_append]
      rcases List.mem_cons.mp hl with rfl | hl
      · exact .inl (.inl hx)
      · exact .inr (ih hl)

/-- A joined list whose last piece is not empty ends as that piece ends. -/
theorem getLast?_intercalate (a : α) (xs : List (List α)) {y : List α} (hy : y ≠ []) :
    ([a].intercalate (xs ++ [y])).getLast? = y.getLast? := by
  obtain ⟨z, hz⟩ := Option.isSome_iff_exists.mp (List.getLast?_isSome.mpr hy)
  rw [intercalate_append_singleton, List.getLast?_append, hz, Option.some_or]

end Joined

variable {a : Char}

/-- Splitting at a one-character separator is `List.splitOn`. -/
theorem pieces_of_toList {sep : String} (h : sep.toList = [a]) (s : String) :
    pieces sep s = (s.toList.splitOn a).map String.ofList := by
  rw [pieces, h, piecesFrom_singleton]
  rcases List.exists_cons_of_ne_nil (List.splitOn_ne_nil a s.toList) with ⟨z, zs, hz⟩
  simp [hz]

theorem not_mem_of_mem_pieces {sep s t : String} (h : sep.toList = [a]) (ht : t ∈ pieces sep s) :
    a ∉ t.toList := by
  rw [pieces_of_toList h, List.mem_map] at ht
  obtain ⟨cs, hcs, rfl⟩ := ht
  rw [String.toList_ofList]
  exact not_mem_of_mem_splitOn hcs

/-- The pieces of a text, joined by the separator, give the text. -/
theorem intercalate_pieces {sep : String} (h : sep.toList = [a]) (s : String) :
    sep.intercalate (pieces sep s) = s := by
  rw [String.ext_iff, String.toList_intercalate, pieces_of_toList h, List.map_map, h]
  simp [Function.comp_def, List.intercalate_splitOn]

/-- Texts free of a one-character separator, joined by it, are cut back into themselves. -/
theorem pieces_intercalate {sep : String} (h : sep.toList = [a]) {ts : List String}
    (hts : ∀ t ∈ ts, a ∉ t.toList) (hne : ts ≠ []) : pieces sep (sep.intercalate ts) = ts := by
  rw [pieces_of_toList h, String.toList_intercalate, h, List.splitOn_intercalate]
  · simp [Function.comp_def]
  · intro l hl
    obtain ⟨t, ht, rfl⟩ := List.mem_map.mp hl
    exact hts t ht
  · simpa using hne

/-- Cutting at the first occurrence of a one-character separator, `acc` holding what was passed
over, reversed. -/
theorem cutFirstFrom_eq_some_iff (xs acc u w : List Char) :
    cutFirstFrom [a] xs acc = some (u, w) ↔
      ∃ pre, u = acc.reverse ++ pre ∧ xs = pre ++ a :: w ∧ a ∉ pre := by
  induction xs generalizing acc with
  | nil => simp [cutFirstFrom]
  | cons c rest ih =>
    by_cases hc : c = a
    · subst hc
      simp only [cutFirstFrom, List.isPrefixOf_cons_cons_self, List.isPrefixOf_nil_left,
        ↓reduceIte, List.length_singleton, List.drop_one, List.tail_cons, Option.some.injEq,
        Prod.mk.injEq]
      constructor
      · rintro ⟨rfl, rfl⟩
        exact ⟨[], by simp, rfl, by simp⟩
      · rintro ⟨pre, rfl, hxs, hpre⟩
        cases pre with
        | nil => simpa using hxs
        | cons d pre =>
          obtain ⟨rfl, -⟩ := List.cons.inj hxs
          simp at hpre
    · have hsep : [a].isPrefixOf (c :: rest) = false := by simp [List.isPrefixOf, Ne.symm hc]
      rw [cutFirstFrom, hsep, if_neg Bool.false_ne_true, ih]
      constructor
      · rintro ⟨pre, rfl, rfl, hpre⟩
        exact ⟨c :: pre, by simp, rfl, by simp [Ne.symm hc, hpre]⟩
      · rintro ⟨pre, rfl, hxs, hpre⟩
        cases pre with
        | nil => exact absurd (List.cons.inj hxs).1 hc
        | cons d pre =>
          obtain ⟨rfl, rfl⟩ := List.cons.inj hxs
          exact ⟨pre, by simp, rfl, fun h ↦ hpre (List.mem_cons_of_mem c h)⟩

/-- A text cut at the first occurrence of a one-character separator: what stands before it holds
no separator. -/
theorem cutFirst_eq_some_iff {sep : String} (h : sep.toList = [a]) (t n v : String) :
    cutFirst sep t = some (n, v) ↔ t = n ++ sep ++ v ∧ a ∉ n.toList := by
  simp only [cutFirst, h, Option.map_eq_some_iff, Prod.exists, Prod.mk.injEq]
  constructor
  · rintro ⟨u, w, hcut, rfl, rfl⟩
    obtain ⟨pre, rfl, ht, hpre⟩ := (cutFirstFrom_eq_some_iff _ _ _ _).mp hcut
    refine ⟨?_, by simpa using hpre⟩
    rw [String.ext_iff]
    simp [ht, h]
  · rintro ⟨rfl, hn⟩
    refine ⟨n.toList, v.toList, (cutFirstFrom_eq_some_iff _ _ _ _).mpr ⟨n.toList, by simp, ?_, hn⟩,
      by simp, by simp⟩
    simp [h]

end Text

/-! ## Labeled lines -/

/-- The fields of a record written as labeled tokens, name, value separator and value, joined by
the field separator. -/
def Record.labeledLine (fieldSep valueSep : String) (r : Record) : String :=
  fieldSep.intercalate (r.fields.map fun f ↦ f.1 ++ valueSep ++ f.2)

/-- A record that the label decoder with field separator `a` and value separator `b` can read: it
has a field, its names are distinct, non-empty and free of both separators, and its values are
free of the field separator. -/
structure Record.Readable (a b : Char) (r : Record) : Prop where
  ne_nil : r.fields ≠ []
  nodup : r.names.Nodup
  name_ne : ∀ f ∈ r.fields, f.1 ≠ ""
  name_free : ∀ f ∈ r.fields, a ∉ f.1.toList ∧ b ∉ f.1.toList
  value_free : ∀ f ∈ r.fields, a ∉ f.2.toList

section Decoding

variable {fieldSep valueSep : String} {a b : Char}

/-- A fresh name keeps the names read so far distinct. -/
theorem nodup_names_append {acc : List (String × String)} {f : String × String}
    (hacc : (acc.map (·.1)).Nodup) (hf : f.1 ∉ acc.map (·.1)) :
    ((acc ++ [f]).map (·.1)).Nodup := by
  rw [List.map_append, List.map_singleton, ← List.concat_eq_append]
  exact hacc.concat hf

/-- One token: a fresh, non-empty name before the first value separator, and its value. -/
theorem readLabeled_cons_eq_some_iff (acc : List (String × String)) (tok : String)
    (rest : List String) (fs : List (String × String)) :
    readLabeled valueSep acc (tok :: rest) = some fs ↔
      ∃ n v, cutFirst valueSep tok = some (n, v) ∧ n ≠ "" ∧ n ∉ acc.map (·.1) ∧
        readLabeled valueSep (acc ++ [(n, v)]) rest = some fs := by
  simp only [readLabeled]
  cases hcut : cutFirst valueSep tok with
  | none => simp
  | some nv =>
    obtain ⟨n, v⟩ := nv
    by_cases hn : n.isEmpty || acc.any (·.1 == n)
    · simp only [hn, ↓reduceIte, reduceCtorEq, false_iff, not_exists, not_and]
      rintro n' v' ⟨rfl, rfl⟩ hne hfresh -
      simp only [Bool.or_eq_true, String.isEmpty_iff, List.any_eq_true, beq_iff_eq] at hn
      rcases hn with hn | ⟨f, hf, rfl⟩
      · exact hne hn
      · exact hfresh (List.mem_map_of_mem hf)
    · simp only [hn, Bool.false_eq_true, ↓reduceIte, Option.some.injEq, Prod.mk.injEq]
      simp only [Bool.or_eq_true, String.isEmpty_iff, List.any_eq_true, beq_iff_eq, not_or,
        not_exists, not_and] at hn
      have hfresh : n ∉ acc.map (·.1) := by
        intro hm
        obtain ⟨⟨m, x⟩, hmx, hm⟩ := List.mem_map.mp hm
        exact hn.2 (m, x) hmx hm
      constructor
      · intro h
        exact ⟨n, v, ⟨rfl, rfl⟩, hn.1, hfresh, h⟩
      · rintro ⟨n', v', ⟨rfl, rfl⟩, -, -, h⟩
        exact h

/-- The label decoder reads tokens exactly when each is a fresh, non-empty name free of the value
separator, the separator, and a value. -/
theorem readLabeled_eq_some_iff (hv : valueSep.toList = [b]) {acc : List (String × String)}
    (hacc : (acc.map (·.1)).Nodup) (toks : List String) (fs : List (String × String)) :
    readLabeled valueSep acc toks = some fs ↔
      ∃ new, fs = acc ++ new ∧ toks = new.map (fun f ↦ f.1 ++ valueSep ++ f.2) ∧
        (∀ f ∈ new, f.1 ≠ "" ∧ b ∉ f.1.toList) ∧ (fs.map (·.1)).Nodup := by
  induction toks generalizing acc with
  | nil =>
    simp only [readLabeled, Option.some.injEq]
    constructor
    · rintro rfl
      exact ⟨[], by simp, rfl, by simp, hacc⟩
    · rintro ⟨new, rfl, hnew, -, -⟩
      simp [List.map_eq_nil_iff.mp hnew.symm]
  | cons tok rest ih =>
    rw [readLabeled_cons_eq_some_iff]
    constructor
    · rintro ⟨n, v, hcut, hn, hfresh, hrest⟩
      obtain ⟨new, rfl, rfl, hnames, hnd⟩ := (ih (nodup_names_append hacc hfresh)).mp hrest
      obtain ⟨rfl, hb⟩ := (cutFirst_eq_some_iff hv tok n v).mp hcut
      refine ⟨(n, v) :: new, by simp, by simp, fun f hf ↦ ?_, hnd⟩
      rcases List.mem_cons.mp hf with rfl | hf
      · exact ⟨hn, hb⟩
      · exact hnames f hf
    · rintro ⟨new, rfl, htoks, hnames, hnd⟩
      cases new with
      | nil => cases htoks
      | cons f new =>
        obtain ⟨rfl, rfl⟩ := List.cons.inj htoks
        have hf := hnames f List.mem_cons_self
        have hfresh : f.1 ∉ acc.map (·.1) := by
          intro h
          rw [List.map_append, List.map_cons, List.nodup_append] at hnd
          exact hnd.2.2 _ h _ List.mem_cons_self rfl
        refine ⟨f.1, f.2, (cutFirst_eq_some_iff hv _ _ _).mpr ⟨rfl, hf.2⟩, hf.1, hfresh, ?_⟩
        exact (ih (nodup_names_append hacc hfresh)).mpr
          ⟨new, by simp, rfl, fun g hg ↦ hnames g (List.mem_cons_of_mem f hg), by simpa using hnd⟩

/-- **The lines the label decoder reads.** With one-character separators, a line decodes to a
record exactly when the record can be read and the line is its labeled line. -/
theorem decodeLabeled_eq_some_iff (hf : fieldSep.toList = [a]) (hv : valueSep.toList = [b])
    (hab : a ≠ b) (line : String) (r : Record) :
    decodeLabeled fieldSep valueSep line = some r ↔
      r.Readable a b ∧ line = r.labeledLine fieldSep valueSep := by
  obtain ⟨fs⟩ := r
  simp only [decodeLabeled, Option.map_eq_some_iff, Record.mk.injEq, exists_eq_right]
  rw [readLabeled_eq_some_iff hv (by simp)]
  simp only [List.nil_append, exists_eq_left']
  constructor
  · rintro ⟨htoks, hnames, hnd⟩
    have hfree : ∀ f ∈ fs, a ∉ (f.1 ++ valueSep ++ f.2).toList := fun f hmem ↦
      not_mem_of_mem_pieces hf (htoks ▸ List.mem_map_of_mem hmem)
    refine ⟨⟨?_, hnd, fun f hmem ↦ (hnames f hmem).1, fun f hmem ↦ ?_, fun f hmem ↦ ?_⟩, ?_⟩
    · rintro rfl
      exact pieces_ne_nil fieldSep line htoks
    · exact ⟨fun h ↦ hfree f hmem (by simp [h]), (hnames f hmem).2⟩
    · exact fun h ↦ hfree f hmem (by simp [h])
    · rw [Record.labeledLine, ← htoks, intercalate_pieces hf]
  · rintro ⟨hr, rfl⟩
    refine ⟨pieces_intercalate hf ?_ (by simpa using hr.ne_nil),
      fun f hmem ↦ ⟨hr.name_ne f hmem, (hr.name_free f hmem).2⟩, hr.nodup⟩
    intro t ht
    obtain ⟨f, hmem, rfl⟩ := List.mem_map.mp ht
    simp [hv, hab, (hr.name_free f hmem).1, hr.value_free f hmem]

/-- A readable record's labeled line decodes to it. -/
theorem decodeLabeled_labeledLine (hf : fieldSep.toList = [a]) (hv : valueSep.toList = [b])
    (hab : a ≠ b) {r : Record} (hr : r.Readable a b) :
    decodeLabeled fieldSep valueSep (r.labeledLine fieldSep valueSep) = some r :=
  (decodeLabeled_eq_some_iff hf hv hab _ r).mpr ⟨hr, rfl⟩

end Decoding

/-! ## Writing a decoded record back -/

theorem labeledFieldSeparator_toList : labeledFieldSeparator.toList = ['\t'] := rfl

theorem labeledValueSeparator_toList : labeledValueSeparator.toList = [':'] := rfl

/-- The lines the label decoder of the labeled parser reads. -/
theorem decodeLabeled_tab_colon_iff (line : String) (r : Record) :
    decodeLabeled labeledFieldSeparator labeledValueSeparator line = some r ↔
      r.Readable '\t' ':' ∧ line = r.labeledLine labeledFieldSeparator labeledValueSeparator :=
  decodeLabeled_eq_some_iff labeledFieldSeparator_toList labeledValueSeparator_toList
    (by decide) line r

/-- A record with its empty values replaced by the empty mark. -/
def Record.emptyMarked (r : Record) : Record := ⟨r.fields.map fun f ↦ (f.1, markEmpty f.2)⟩

theorem markEmpty_markEmpty (v : String) : markEmpty (markEmpty v) = markEmpty v := by
  by_cases h : v.isEmpty <;> simp [markEmpty, h, emptyValueMark]

/-- The labeled format writes a record as its labeled line with its empty values marked. -/
theorem labeledText_eq_labeledLine (r : Record) :
    labeledText r.names r.values =
      r.emptyMarked.labeledLine labeledFieldSeparator labeledValueSeparator := by
  rw [labeledText, Record.names, Record.values, ← List.zip_of_prod rfl rfl, Record.labeledLine,
    Record.emptyMarked, List.map_map]
  rfl

theorem labeledText_emptyMarked (r : Record) :
    labeledText r.emptyMarked.names r.emptyMarked.values = labeledText r.names r.values := by
  rw [labeledText_eq_labeledLine, labeledText_eq_labeledLine]
  simp [Record.emptyMarked, markEmpty_markEmpty, Function.comp_def]

/-- Marking empty values keeps a record readable by a decoder whose field separator is not the
empty mark. -/
theorem Record.Readable.emptyMarked {a b : Char} {r : Record} (ha : a ≠ '-') (hr : r.Readable a b) :
    r.emptyMarked.Readable a b where
  ne_nil := by simpa [Record.emptyMarked] using hr.ne_nil
  nodup := by simpa [Record.emptyMarked, Record.names, Function.comp_def] using hr.nodup
  name_ne := by
    simp only [Record.emptyMarked, List.mem_map, forall_exists_index, and_imp]
    rintro _ f hf rfl
    exact hr.name_ne f hf
  name_free := by
    simp only [Record.emptyMarked, List.mem_map, forall_exists_index, and_imp]
    rintro _ f hf rfl
    exact hr.name_free f hf
  value_free := by
    simp only [Record.emptyMarked, List.mem_map, forall_exists_index, and_imp]
    rintro _ f hf rfl
    by_cases h : f.2.isEmpty
    · simp [markEmpty, h, emptyValueMark, ha]
    · simpa [markEmpty, h] using hr.value_free f hf

/-- The labeled text of the record of a line, when the line decodes. -/
def relabeled (line : String) : Option String :=
  (decodeLabeled labeledFieldSeparator labeledValueSeparator line).map
    fun r ↦ labeledText r.names r.values

section Written

variable {line : String} {r : Record}

/-- **Labeled text read back.** A decoded record, written as labeled text, decodes to itself with
its empty values marked. -/
theorem decodeLabeled_labeledText
    (h : decodeLabeled labeledFieldSeparator labeledValueSeparator line = some r) :
    decodeLabeled labeledFieldSeparator labeledValueSeparator (labeledText r.names r.values) =
      some r.emptyMarked := by
  rw [decodeLabeled_tab_colon_iff] at h ⊢
  exact ⟨h.1.emptyMarked (by decide), labeledText_eq_labeledLine r⟩

/-- Every character of the labeled text of a decoded line is one of the line's, a separator or
the empty mark. -/
theorem mem_labeledText
    (h : decodeLabeled labeledFieldSeparator labeledValueSeparator line = some r) {x : Char}
    (hx : x ∈ (labeledText r.names r.values).toList) : x ∈ line.toList ∨ x ∈ ['\t', ':', '-'] := by
  obtain ⟨-, rfl⟩ := (decodeLabeled_tab_colon_iff line r).mp h
  rw [labeledText_eq_labeledLine, Record.labeledLine, String.toList_intercalate] at hx
  rcases mem_of_mem_intercalate hx with hx | ⟨t, ht, hx⟩
  · simp_all [labeledFieldSeparator]
  · simp only [Record.emptyMarked, List.map_map, List.mem_map, Function.comp_apply] at ht
    obtain ⟨f, hf, rfl⟩ := ht
    have hin : ∀ {y : Char}, y ∈ f.1.toList ∨ y ∈ f.2.toList →
        y ∈ (r.labeledLine labeledFieldSeparator labeledValueSeparator).toList := by
      intro y hy
      rw [Record.labeledLine, String.toList_intercalate]
      refine mem_intercalate_of_mem (List.mem_map_of_mem (List.mem_map_of_mem hf)) ?_
      rcases hy with hy | hy <;> simp [hy]
    simp only [String.toList_append, List.mem_append, labeledValueSeparator_toList,
      List.mem_singleton] at hx
    rcases hx with (hx | rfl) | hx
    · exact .inl (hin (.inl hx))
    · simp
    · by_cases he : f.2.isEmpty
      · simp_all [markEmpty, emptyValueMark]
      · rw [markEmpty, if_neg he] at hx
        exact .inl (hin (.inr hx))

/-- A labeled line ends as its last token ends. -/
theorem getLast?_labeledLine {fieldSep valueSep : String} {a b : Char}
    (hf : fieldSep.toList = [a]) (hv : valueSep.toList = [b]) {init : List (String × String)}
    {f : String × String} (hfs : r.fields = init ++ [f]) :
    (r.labeledLine fieldSep valueSep).toList.getLast? = (f.1 ++ valueSep ++ f.2).toList.getLast? := by
  rw [Record.labeledLine, hfs, String.toList_intercalate, hf, List.map_append, List.map_append,
    List.map_singleton, List.map_singleton, getLast?_intercalate]
  simp [hv]

/-- The labeled text of a decoded line that does not end in a carriage return does not end in
one either: it ends as the line does, or in the empty mark. -/
theorem getLast?_labeledText
    (h : decodeLabeled labeledFieldSeparator labeledValueSeparator line = some r)
    (hline : line.toList.getLast? ≠ some '\r') :
    (labeledText r.names r.values).toList.getLast? ≠ some '\r' := by
  obtain ⟨hr, rfl⟩ := (decodeLabeled_tab_colon_iff line r).mp h
  rcases List.eq_nil_or_concat r.fields with hnil | ⟨init, f, hfs⟩
  · exact absurd hnil hr.ne_nil
  rw [List.concat_eq_append] at hfs
  have hfs' : r.emptyMarked.fields = init.map (fun g ↦ (g.1, markEmpty g.2)) ++
      [(f.1, markEmpty f.2)] := by
    simp [Record.emptyMarked, hfs]
  rw [getLast?_labeledLine labeledFieldSeparator_toList labeledValueSeparator_toList hfs] at hline
  rw [labeledText_eq_labeledLine, getLast?_labeledLine labeledFieldSeparator_toList
    labeledValueSeparator_toList hfs']
  by_cases he : f.2.isEmpty
  · simp [markEmpty, he, emptyValueMark]
  · simpa [markEmpty, he] using hline

/-- A line the labeled parser writes is written again as it is. -/
theorem relabeled_labeledText
    (h : decodeLabeled labeledFieldSeparator labeledValueSeparator line = some r) :
    relabeled (labeledText r.names r.values) = some (labeledText r.names r.values) := by
  rw [relabeled, decodeLabeled_labeledText h, Option.map_some, labeledText_emptyMarked]

end Written

/-! ## Writing and decoding labeled records are inverse -/

/-- A labeled token with an empty value replaced by the empty mark; a token without a value
separator is left as it is. -/
def markTokenValue (tok : String) : String :=
  match cutFirst labeledValueSeparator tok with
  | some (n, v) => n ++ labeledValueSeparator ++ markEmpty v
  | none => tok

/-- A labeled line with every empty value replaced by the empty mark. -/
def markEmptyValues (line : String) : String :=
  labeledFieldSeparator.intercalate ((pieces labeledFieldSeparator line).map markTokenValue)

theorem markEmpty_of_ne {v : String} (h : v ≠ "") : markEmpty v = v := by
  simp [markEmpty, h]

/-- A token whose name holds no value separator has its value marked. -/
theorem markTokenValue_token {n : String} (hn : ':' ∉ n.toList) (v : String) :
    markTokenValue (n ++ labeledValueSeparator ++ v) = n ++ labeledValueSeparator ++ markEmpty v := by
  have hcut : cutFirst labeledValueSeparator (n ++ labeledValueSeparator ++ v) = some (n, v) :=
    (cutFirst_eq_some_iff labeledValueSeparator_toList _ n v).mpr ⟨rfl, hn⟩
  rw [markTokenValue, hcut]

/-- Marking the empty values of a readable record's labeled line marks the record's. -/
theorem markEmptyValues_labeledLine {r : Record} (hr : r.Readable '\t' ':') :
    markEmptyValues (r.labeledLine labeledFieldSeparator labeledValueSeparator) =
      r.emptyMarked.labeledLine labeledFieldSeparator labeledValueSeparator := by
  have htoks : ∀ t ∈ r.fields.map (fun f ↦ f.1 ++ labeledValueSeparator ++ f.2), '\t' ∉ t.toList := by
    intro t ht
    obtain ⟨f, hf, rfl⟩ := List.mem_map.mp ht
    simp [labeledValueSeparator, (hr.name_free f hf).1, hr.value_free f hf]
  rw [markEmptyValues, Record.labeledLine,
    pieces_intercalate labeledFieldSeparator_toList htoks (by simpa using hr.ne_nil),
    List.map_map, Record.labeledLine, Record.emptyMarked, List.map_map]
  congr 1
  refine List.map_congr_left fun f hf ↦ ?_
  exact markTokenValue_token (hr.name_free f hf).2 f.2

/-- A record none of whose values is empty is its own marked record. -/
theorem Record.emptyMarked_of_ne {r : Record} (h : ∀ v ∈ r.values, v ≠ "") : r.emptyMarked = r := by
  obtain ⟨fs⟩ := r
  simp only [Record.emptyMarked, Record.mk.injEq]
  conv_rhs => rw [← List.map_id fs]
  refine List.map_congr_left fun f hf ↦ ?_
  rw [markEmpty_of_ne (h f.2 (List.mem_map_of_mem hf))]
  rfl

/-- The record of listed fields whose names are distinct, non-empty and free of tabs and colons,
and whose values are free of tabs, can be read by the label decoder. -/
theorem Record.readable_of_fields {fields : List (String × String)} (hne : fields ≠ [])
    (hnd : (fields.map (·.1)).Nodup)
    (hf : ∀ f ∈ fields, f.1 ≠ "" ∧ ':' ∉ f.1.toList ∧ '\t' ∉ f.1.toList ∧ '\t' ∉ f.2.toList) :
    (Record.mk fields).Readable '\t' ':' where
  ne_nil := hne
  nodup := hnd
  name_ne f h := (hf f h).1
  name_free f h := ⟨(hf f h).2.2.1, (hf f h).2.1⟩
  value_free f h := (hf f h).2.2.2

/-- **Writing and decoding labeled records are inverse.** Fields whose names are distinct,
non-empty and free of tabs and colons, and whose values are free of tabs, written as labeled
text, decode to themselves with their empty values marked. A line that decodes is written back as
itself with its empty values marked, so exactly as itself when no value is empty. -/
theorem labeled_write_decode_inverse :
    (∀ (fields : List (String × String)) (index : Int) (hasLineNumber isFirst : Bool),
      fields ≠ [] → (fields.map (·.1)).Nodup →
      (∀ f ∈ fields, f.1 ≠ "" ∧ ':' ∉ f.1.toList ∧ '\t' ∉ f.1.toList ∧ '\t' ∉ f.2.toList) →
      (Decoder.labeled labeledFieldSeparator labeledValueSeparator).decode
          (Format.labeled.render (fields.map (·.1)) (fields.map (·.2)) index hasLineNumber
            isFirst) =
        .ok (some ⟨fields.map fun f ↦ (f.1, markEmpty f.2)⟩)) ∧
    (∀ (line : String) (r : Record) (index : Int) (hasLineNumber isFirst : Bool),
      (Decoder.labeled labeledFieldSeparator labeledValueSeparator).decode line = .ok (some r) →
      Format.labeled.render r.names r.values index hasLineNumber isFirst = markEmptyValues line ∧
      ((∀ v ∈ r.values, v ≠ "") →
        Format.labeled.render r.names r.values index hasLineNumber isFirst = line)) := by
  refine ⟨fun fields index hasLineNumber isFirst hne hnd hf ↦ ?_,
    fun line r index hasLineNumber isFirst h ↦ ?_⟩
  · have hr := Record.readable_of_fields hne hnd hf
    have hw : Format.labeled.render (fields.map (·.1)) (fields.map (·.2)) index hasLineNumber
        isFirst = (Record.mk fields).emptyMarked.labeledLine labeledFieldSeparator
          labeledValueSeparator :=
      labeledText_eq_labeledLine ⟨fields⟩
    rw [Decoder.decode, hw, decodeLabeled_labeledLine labeledFieldSeparator_toList
      labeledValueSeparator_toList (by decide) (hr.emptyMarked (by decide))]
    rfl
  · obtain ⟨hr, rfl⟩ := (decodeLabeled_tab_colon_iff line r).mp (by simpa [Decoder.decode] using h)
    have hw : Format.labeled.render r.names r.values index hasLineNumber isFirst =
        r.emptyMarked.labeledLine labeledFieldSeparator labeledValueSeparator :=
      labeledText_eq_labeledLine r
    refine ⟨by rw [hw, markEmptyValues_labeledLine hr], fun hv ↦ ?_⟩
    rw [hw, Record.emptyMarked_of_ne hv]

/-- Two fields, the second with an empty value, written as labeled text, decode to themselves
with that value marked; the line written decodes, and writing its record marks its empty value. -/
theorem labeled_write_decode_sample :
    let fields : List (String × String) := [("host", "127.0.0.1"), ("ua", "")]
    let line := Format.labeled.render (fields.map (·.1)) (fields.map (·.2)) 1 false true
    let r : Record := ⟨fields.map fun f ↦ (f.1, markEmpty f.2)⟩
    (fields ≠ [] ∧ (fields.map (·.1)).Nodup ∧
      ∀ f ∈ fields, f.1 ≠ "" ∧ ':' ∉ f.1.toList ∧ '\t' ∉ f.1.toList ∧ '\t' ∉ f.2.toList) ∧
    (Decoder.labeled labeledFieldSeparator labeledValueSeparator).decode line = .ok (some r) ∧
      Format.labeled.render r.names r.values 1 false true = markEmptyValues line := by
  intro fields line r
  have hne : fields ≠ [] := by decide
  have hnd : (fields.map (·.1)).Nodup := by decide
  have hf : ∀ f ∈ fields, f.1 ≠ "" ∧ ':' ∉ f.1.toList ∧ '\t' ∉ f.1.toList ∧ '\t' ∉ f.2.toList := by
    decide
  have h := labeled_write_decode_inverse.1 fields 1 false true hne hnd hf
  exact ⟨⟨hne, hnd, hf⟩, h, (labeled_write_decode_inverse.2 line r 1 false true h).1⟩

/-- A text that does not end in two carriage returns ends in none once one is dropped. -/
theorem getLast?_dropReturn {s : String} (h : ¬['\r', '\r'] <:+ s.toList) :
    (dropReturn s).toList.getLast? ≠ some '\r' := by
  unfold dropReturn
  split
  · rename_i hlast
    obtain ⟨ys, hys⟩ := List.getLast?_eq_some_iff.mp (by simpa using hlast)
    rw [String.toList_ofList, hys, List.dropLast_concat]
    intro hy
    obtain ⟨zs, rfl⟩ := List.getLast?_eq_some_iff.mp hy
    exact h ⟨zs, by simp [hys]⟩
  · rename_i hlast
    simpa using hlast

/-- No line of a text ends in a carriage return when no piece between its line feeds ends in
two. -/
theorem getLast?_of_mem_textLines {text l : String}
    (h : ∀ seg ∈ text.toList.splitOn '\n', ¬['\r', '\r'] <:+ seg) (hl : l ∈ textLines text) :
    l.toList.getLast? ≠ some '\r' := by
  rw [textLines_eq, physicalLines, List.mem_map] at hl
  obtain ⟨cs, hmem, rfl⟩ := hl
  exact getLast?_dropReturn (by simpa using h cs (List.mem_of_mem_take hmem))

/-! ## The labeled parser writing labeled text -/

/-- The labeled parser whose records are written as labeled text. -/
def Parser.labeledEcho : Parser := { scheme := .labeled, options := { handler := .format .labeled } }

/-- A run writes the outputs of its outcomes, each followed by a line feed. -/
theorem join_writtenText (os : List Outcome) :
    String.join (os.map Outcome.writtenText) =
      String.join ((os.filterMap Outcome.output).map (· ++ "\n")) := by
  induction os with
  | nil => rfl
  | cons o os ih =>
    cases ho : o.output with
    | none => simp [Outcome.writtenText, ho, ih]
    | some s => simp [Outcome.writtenText, ho, ih, String.join_cons]

namespace Pipeline

/-- A pipeline of the labeled parser writing labeled text, between any two lines. -/
structure EchoesLabels (p : Pipeline) : Prop where
  decoder : p.decoder = .labeled labeledFieldSeparator labeledValueSeparator
  options : p.options = Parser.labeledEcho.options
  filters : p.filters = []

namespace EchoesLabels

variable {p : Pipeline} {c : Nat} {entry : Option String} {first : Bool} {l : String}
  {r : Except Error Outcome}

theorem process (hp : p.EchoesLabels) (l : String) : (p.process l).1.EchoesLabels :=
  ⟨by rw [decoder_process, hp.decoder], by rw [options_process, hp.options],
    by rw [filters_process, hp.filters]⟩

/-- Every line is answered: the labeled text of its record is written when it decodes, and
nothing otherwise. -/
theorem answer (hp : p.EchoesLabels) (h : LineContract p c entry first l r) :
    ∃ o, r = .ok o ∧ o.output = relabeled l := by
  have hl : listedToSkip p.options.skipLines c = false := by rw [hp.options]; rfl
  have hd : p.decoder.decode l =
      .ok (decodeLabeled labeledFieldSeparator labeledValueSeparator l) := by
    rw [hp.decoder]; rfl
  cases hr : decodeLabeled labeledFieldSeparator labeledValueSeparator l with
  | none =>
    refine ⟨_, h.refused hl (hr ▸ hd), ?_⟩
    simp [unmatchedOutput, hp.options, Parser.labeledEcho, relabeled, hr]
  | some rec =>
    have hf : Filter.allPass rec (some (c : Int)) p.filters = .ok true := by rw [hp.filters]; rfl
    have hs : p.shape rec c = .ok rec := by
      rw [shape_of_texts p [] (by rw [hp.options]; rfl)]
      simp [hp.options, Parser.labeledEcho]
    have hw := h.handed hl rec rec (hr ▸ hd) hf hs
    simp only [hp.options, Parser.labeledEcho, Handler.call, Format.render, replyAnswer,
      matchedOutput] at hw
    exact ⟨_, hw, by simp [relabeled, hr]⟩

/-- The pipeline carries every list of lines through. -/
theorem runs (hp : p.EchoesLabels) (ls : List String) : ∃ os q, p.Runs ls os q := by
  induction ls generalizing p with
  | nil => exact ⟨[], p, .nil p⟩
  | cons l ls ih =>
    obtain ⟨o, ho, -⟩ := hp.answer (process_contract p l)
    obtain ⟨os, q, hrun⟩ := ih (hp.process l)
    exact ⟨o :: os, q, .cons ho hrun⟩

/-- A line that decodes is matched, any other unmatched. -/
theorem verdict (hp : p.EchoesLabels) (c : Nat) (l : String) :
    p.verdict c l = some (if (relabeled l).isSome then .matched else .unmatched) := by
  unfold Pipeline.verdict
  rw [hp.options, hp.decoder, hp.filters]
  cases hr : decodeLabeled labeledFieldSeparator labeledValueSeparator l <;>
    simp [Parser.labeledEcho, listedToSkip, Decoder.decode, relabeled, hr, Filter.allPass]

/-- The lines that end in a status, counted over the numbered lines. -/
theorem countP_verdict (hp : p.EchoesLabels) (ls : List String) (k : Nat) (s : Status) :
    (ls.zipIdx k).countP (fun x ↦ p.verdict x.2 x.1 == some s) =
      ls.countP fun l ↦ (if (relabeled l).isSome then Status.matched else .unmatched) == s := by
  conv_rhs => rw [← List.zipIdx_map_fst k ls, List.countP_map]
  congr 1
  funext x
  simp [hp.verdict]

end EchoesLabels

end Pipeline

namespace Parser

/-- **What the labeled parser writing labeled text does.** Every text is read through: the labeled
text of each line that decodes is written, and the tally counts these lines matched and the
others unmatched. -/
theorem labeledEcho_parseText (text : String) :
    ∃ t, labeledEcho.parseText text =
        ⟨String.join (((textLines text).filterMap relabeled).map (· ++ "\n")), .ok t⟩ ∧
      t.total = (textLines text).length ∧
      t.matched = (textLines text).countP (fun l ↦ (relabeled l).isSome) ∧
      t.unmatched = (textLines text).countP (fun l ↦ (relabeled l).isNone) ∧
      t.excluded = 0 ∧ t.skipped = 0 := by
  let pl : Pipeline :=
    { decoder := .labeled labeledFieldSeparator labeledValueSeparator,
      options := labeledEcho.options, filters := [] }
  have hprep : labeledEcho.prepare = .ok pl := rfl
  have hp : pl.EchoesLabels := ⟨rfl, rfl, rfl⟩
  obtain ⟨os, q, hrun⟩ := hp.runs (textLines text)
  have hout : os.map Outcome.output = (textLines text).map relabeled := by
    rw [hrun.map_eq Outcome.output (fun x ↦ relabeled x.1) fun c first l o hc ↦ ?_]
    · conv_rhs => rw [← List.zipIdx_map_fst (pl.count + 1) (textLines text), List.map_map]
      rfl
    · obtain ⟨o', ho', hout⟩ := hp.answer hc
      cases ho'
      exact hout
  have hwritten : os.filterMap Outcome.output = (textLines text).filterMap relabeled := by
    simpa [List.filterMap_map] using congrArg (List.filterMap id) hout
  refine ⟨pl.linesTally (textLines text), ?_, by simp [Pipeline.linesTally], ?_, ?_, ?_, ?_⟩
  · simp only [parseText, parseFeed, hprep, runFeed, LineFeed.ofText, feedLines_of_runs hrun,
      hrun.tally_eq, join_writtenText, hwritten, String.empty_append]
    rfl
  · simp only [Pipeline.linesTally, hp.countP_verdict]
    congr 1
    exact List.countP_congr fun l _ ↦ by cases (relabeled l).isSome <;> simp
  · simp only [Pipeline.linesTally, hp.countP_verdict]
    congr 1
    exact List.countP_congr fun l _ ↦ by cases relabeled l <;> simp
  · simp only [Pipeline.linesTally, hp.countP_verdict]
    simp only [Nat.cast_eq_zero, List.countP_eq_zero]
    intro l _
    split <;> decide
  · simp only [Pipeline.linesTally, hp.countP_verdict]
    simp only [Nat.cast_eq_zero, List.countP_eq_zero]
    intro l _
    split <;> decide

/-- **Labeled output is a fixed point of parsing.** When no piece of a text between line feeds
ends in two carriage returns, the labeled parser writing labeled text reads the text through, and
reading what it wrote writes exactly that again, matching every line: as many as the first reading
matched. -/
theorem labeledEcho_output_fixed (text : String)
    (h : ∀ seg ∈ text.toList.splitOn '\n', ¬['\r', '\r'] <:+ seg) :
    ∃ out r, labeledEcho.parseText text = ⟨out, .ok r⟩ ∧
      out = String.join (((textLines text).filterMap relabeled).map (· ++ "\n")) ∧
      ∃ r', labeledEcho.parseText out = ⟨out, .ok r'⟩ ∧
        r'.total = r.matched ∧ r'.matched = r.matched ∧ r'.unmatched = 0 ∧ r'.excluded = 0 ∧
        r'.skipped = 0 := by
  obtain ⟨r, h1, -, hm, -, -, -⟩ := labeledEcho_parseText text
  rw [← List.length_filterMap_eq_countP] at hm
  have hitem : ∀ u ∈ (textLines text).filterMap relabeled,
      '\n' ∉ u.toList ∧ u.toList.getLast? ≠ some '\r' ∧ relabeled u = some u := by
    intro u hu
    obtain ⟨l, hl, hlu⟩ := List.mem_filterMap.mp hu
    obtain ⟨rec, hrec, rfl⟩ := Option.map_eq_some_iff.mp hlu
    refine ⟨fun hn ↦ ?_, getLast?_labeledText hrec (getLast?_of_mem_textLines h hl),
      relabeled_labeledText hrec⟩
    rcases mem_labeledText hrec hn with hn | hn
    · exact newline_not_mem_of_mem_textLines hl hn
    · simp at hn
  refine ⟨_, r, h1, rfl, ?_⟩
  generalize (textLines text).filterMap relabeled = items at hitem h1 hm
  have hlines : textLines (String.join (items.map (· ++ "\n"))) = items := by
    have hfeed := congrArg LineFeed.lines (LineFeed.ofItems_eq_ofText fun x hx ↦ (hitem x hx).1)
    have hstrip : ∀ u ∈ items, stripTerminator u = u := fun u hu ↦ by
      simp [stripTerminator_of_not_mem (hitem u hu).1, dropReturn, (hitem u hu).2.1]
    rw [LineFeed.ofItems, LineFeed.ofText, List.map_congr_left hstrip, List.map_id'] at hfeed
    exact hfeed.symm
  obtain ⟨r', h2, ht', hm', hu', hx', hs'⟩ :=
    labeledEcho_parseText (String.join (items.map (· ++ "\n")))
  rw [hlines] at h2 ht' hm' hu'
  have hre : items.filterMap relabeled = items := by
    rw [List.filterMap_congr fun u hu ↦ (hitem u hu).2.2, List.filterMap_some]
  refine ⟨r', by rw [h2, hre], by rw [ht', hm], ?_, ?_, hx', hs'⟩
  · rw [hm', hm, List.countP_eq_length.mpr fun u hu ↦ by simp [(hitem u hu).2.2]]
  · rw [hu', List.countP_eq_zero.mpr fun u hu ↦ by simp [(hitem u hu).2.2]]
    rfl

/-- A text with a line ending in one carriage return, a value left empty and a line that does
not decode. -/
theorem labeledEcho_output_fixed_sample :
    (∀ seg ∈ "a:1\tb:\r\nx\n".toList.splitOn '\n', ¬['\r', '\r'] <:+ seg) ∧
      ∃ out r, labeledEcho.parseText "a:1\tb:\r\nx\n" = ⟨out, .ok r⟩ ∧
        out = String.join (((textLines "a:1\tb:\r\nx\n").filterMap relabeled).map (· ++ "\n")) ∧
        ∃ r', labeledEcho.parseText out = ⟨out, .ok r'⟩ ∧
          r'.total = r.matched ∧ r'.matched = r.matched ∧ r'.unmatched = 0 ∧ r'.excluded = 0 ∧
          r'.skipped = 0 :=
  ⟨by decide, labeledEcho_output_fixed _ (by decide)⟩

end Parser

end AccessLog

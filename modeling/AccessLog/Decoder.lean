import AccessLog.PatternSet
import AccessLog.Text.Split

/-!
# Decoders

A decoder turns one line into a `Record`, or into nothing when the line is not in its format.

* A *pattern decoder* tries the patterns of a `PatternSet` in order and decodes with the first
  that matches somewhere in the line: the fields are the pattern's groups in group order, and a
  group that took no part in the match holds the empty text. A pattern compiled from a byte
  string reached in that order fails with a type error. Its *known fields*, the fields it can
  ever produce, are the set's field names.
* A *label decoder* reads labeled values: the line is cut at every field separator, and each
  token at its first value separator into a label and a value. A token without a value
  separator, an empty label or a label met twice on the line refuses the whole line, so the
  empty line is refused too. Labels come with the lines, so nothing is known in advance.

## Main statements

* `decodeLabeled_nodup`: a decoded labeled line never repeats a label.
-/

namespace AccessLog

open AccessLog.Text AccessLog.Regex

/-- The separator between the fields of a labeled line. -/
def labeledFieldSeparator : String := "\t"

/-- The separator between a label and its value. -/
def labeledValueSeparator : String := ":"

/-- How lines are decoded. -/
inductive Decoder where
  /-- By the first pattern of the set that matches. -/
  | patterns (set : PatternSet)
  /-- By labels, with the given field and value separators. -/
  | labeled (fieldSep valueSep : String)
  deriving Inhabited

/-- A label decoder; both separators must be non-empty. -/
def Decoder.labeledWith (fieldSep valueSep : String) : Except Error Decoder :=
  if fieldSep.isEmpty || valueSep.isEmpty then .error .emptySeparator
  else .ok (.labeled fieldSep valueSep)

/-- The record a field pattern decodes from a line, if it matches somewhere; an error when the
search gives no answer. -/
def FieldPattern.decode (p : FieldPattern) (line : String) : Except Error (Option Record) :=
  match p.pattern.search line with
  | .error f => .error f.toError
  | .ok found =>
    .ok (found.map fun m => ⟨p.pattern.names.map fun (name, i) => (name, (m.group? line i).getD "")⟩)

/-- The record of the first pattern that matches. -/
def decodeFirst (line : String) : List FieldPattern → Except Error (Option Record)
  | [] => .ok none
  | p :: ps =>
    match p.decode line with
    | .ok (some r) => .ok (some r)
    | .ok none => decodeFirst line ps
    | .error e => .error e

/-- Reads labeled tokens, refusing a token without separator, an empty label or a label already
in `acc`. -/
def readLabeled (valueSep : String) : List (String × String) → List String →
    Option (List (String × String))
  | acc, [] => some acc
  | acc, tok :: rest =>
    match cutFirst valueSep tok with
    | none => none
    | some (name, value) =>
      if name.isEmpty || acc.any (·.1 == name) then none
      else readLabeled valueSep (acc ++ [(name, value)]) rest

/-- The record of a labeled line. -/
def decodeLabeled (fieldSep valueSep : String) (line : String) : Option Record :=
  (readLabeled valueSep [] (pieces fieldSep line)).map Record.mk

theorem readLabeled_nodup (valueSep : String) (acc : List (String × String)) (toks : List String)
    (hacc : (acc.map (·.1)).Nodup) (fs : List (String × String))
    (h : readLabeled valueSep acc toks = some fs) : (fs.map (·.1)).Nodup := by
  induction toks generalizing acc with
  | nil => simp [readLabeled] at h; subst h; exact hacc
  | cons tok rest ih =>
    simp only [readLabeled] at h
    split at h
    · cases h
    · rename_i name value _
      split at h
      · cases h
      · rename_i hn
        apply ih _ _ h
        simp only [Bool.or_eq_true, not_or, List.any_eq_true, beq_iff_eq, not_exists,
          not_and] at hn
        simp only [List.map_append, List.map_cons, List.map_nil]
        refine List.nodup_append.mpr ⟨hacc, by simp, ?_⟩
        intro a ha b hb
        simp only [List.mem_singleton] at hb
        subst hb
        intro hab
        subst hab
        obtain ⟨⟨x, y⟩, hx, rfl⟩ := List.mem_map.mp ha
        exact hn.2 _ hx rfl

theorem decodeLabeled_nodup (fieldSep valueSep line : String) (r : Record)
    (h : decodeLabeled fieldSep valueSep line = some r) : r.names.Nodup := by
  unfold decodeLabeled at h
  cases hr : readLabeled valueSep [] (pieces fieldSep line) with
  | none => simp [hr] at h
  | some fs =>
    simp [hr] at h
    subst h
    exact readLabeled_nodup valueSep [] _ (by simp) fs hr

namespace Decoder

/-- The record of a line, or `none` when the line is not in the decoder's format. -/
def decode : Decoder → String → Except Error (Option Record)
  | .patterns s, line => decodeFirst line s.patterns
  | .labeled fs vs, line => .ok (decodeLabeled fs vs line)

/-- The fields a decoder can produce, when known before reading lines. -/
def knownFields : Decoder → Option (List String)
  | .patterns s => some s.fieldNames
  | .labeled .. => none

end Decoder

end AccessLog

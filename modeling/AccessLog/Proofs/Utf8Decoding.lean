import Mathlib
import AccessLog.Source

/-!
# Decoding UTF-8 text read in pieces

A file is read in pieces of a fixed size, and a gzip member's data in the pieces its blocks
inflate to, so the bytes of one character may be cut between two pieces: the decoder keeps a cut
sequence and completes it with the next piece. Whatever the pieces, the bytes of a text decode to
the text, without a fault.

The argument is one lemma per character. The UTF-8 sequence `String.toUTF8` writes for a
character is well formed for the decoder (`Encodes`): its lead byte announces its length, each
continuation byte lies within the bounds the lead byte sets (which exclude overlong forms,
surrogates and code points past `0x10ffff`), and together they give back the code point. Decoding
such a sequence consumes it (`decodeFrom_encodes`), and decoding it cut short keeps it for later
(`decodeFrom_cut`). So any first bytes of a text are some whole characters and the start of the
next one (`decodeFrom_take_utf8`), which is exactly what the decoder carries from one piece to
the next.

## Main statements

* `encodes_utf8EncodeChar`: the sequence of every character is well formed.
* `decodePieces_utf8`: the bytes of a text, in any pieces, decode to the text.
* `Archive.ByteFeed.lines_of_utf8`: bytes of a text read whole give the text's lines.
* `startsWithGzipSignature_toUTF8`: the bytes of a text never start with the gzip signature.
-/

namespace AccessLog

open Archive Text

/-! ## Bytes as lists -/

theorem ByteArray.toList_loop (bs : ByteArray) (i : Nat) (r : List UInt8) :
    ByteArray.toList.loop bs i r = r.reverse ++ bs.data.toList.drop i := by
  fun_induction ByteArray.toList.loop bs i r with
  | case1 i r h ih =>
    have hi : i < bs.data.toList.length := by simpa using h
    rw [ih, List.drop_eq_getElem_cons hi]
    simp only [ByteArray.get!, List.reverse_cons, List.append_assoc, List.singleton_append,
      Array.getElem_toList]
    rw [getElem!_pos bs.data i h]
  | case2 i r h =>
    rw [List.drop_eq_nil_of_le (by simpa using Nat.le_of_not_lt h), List.append_nil]

theorem ByteArray.toList_eq (b : ByteArray) : b.toList = b.data.toList := by
  unfold ByteArray.toList
  rw [ByteArray.toList_loop]
  simp

theorem ByteArray.getElem!_eq_getD (b : ByteArray) (i : Nat) : b[i]! = b.toList.getD i 0 := by
  rw [ByteArray.toList_eq, List.getD_eq_getElem?_getD]
  by_cases h : i < b.size
  · rw [getElem!_pos b i h, List.getElem?_eq_getElem (by simpa using h)]
    rfl
  · rw [getElem!_neg b i h, List.getElem?_eq_none (by simpa using Nat.le_of_not_lt h)]
    rfl

theorem ByteArray.toList_extract (b : ByteArray) (i j : Nat) :
    (b.extract i j).toList = (b.toList.drop i).take (j - i) := by
  rw [ByteArray.toList_eq, ByteArray.toList_eq, ByteArray.data_extract, Array.toList_extract,
    List.extract_eq_take_drop]

/-- The bytes of a text are the UTF-8 sequences of its characters. -/
theorem String.toUTF8_toList (s : String) :
    s.toUTF8.toList = s.toList.flatMap String.utf8EncodeChar := by
  rw [String.toUTF8_eq_toByteArray, ← String.utf8Encode_toList, List.utf8Encode,
    ByteArray.toList_eq, List.data_toByteArray, List.toList_toArray]

theorem flatten_chunks {α : Type} (l : List α) (k n : Nat) :
    ((List.range n).map fun i ↦ (l.drop (i * k)).take ((i + 1) * k - i * k)).flatten =
      l.take (n * k) := by
  induction n with
  | zero => simp
  | succ n ih =>
    rw [List.range_succ, List.map_append, List.flatten_append, ih]
    simp only [List.map_cons, List.map_nil, List.flatten_cons, List.flatten_nil, List.append_nil]
    rw [← List.take_add]
    congr 1
    rw [Nat.succ_mul]
    omega

/-- The reads of a file, one after the other, are its bytes. -/
theorem cutReads_flatten (b : ByteArray) :
    ((cutReads b).map ByteArray.toList).flatten = b.toList := by
  rw [cutReads, List.map_map]
  simp only [Function.comp_def, ByteArray.toList_extract]
  rw [flatten_chunks, List.take_of_length_le]
  rw [ByteArray.toList_eq, Array.length_toList]
  simp only [readSize]
  have : b.data.size = b.size := rfl
  omega

/-! ## Well-formed sequences -/

namespace Text

theorem toNat_ofNat_byte (n : Nat) : (UInt8.ofNat n).toNat = n % 256 := by
  simp

theorem sequenceLength_eq (b : UInt8) :
    sequenceLength b =
      if b.toNat < 0x80 then some 1 else if b.toNat < 0xc2 then none
      else if b.toNat < 0xe0 then some 2 else if b.toNat < 0xf0 then some 3
      else if b.toNat < 0xf5 then some 4 else none := by
  simp only [sequenceLength, UInt8.lt_iff_toNat_lt]
  rfl

/-- The bounds of a continuation byte, as numbers: the second byte after `0xe0`, `0xed`, `0xf0`
and `0xf4` has a narrower range. -/
theorem continuationBounds_toNat (lead : UInt8) (k : Nat) :
    (continuationBounds lead k).1.toNat =
        (if k = 1 ∧ lead.toNat = 0xe0 then 0xa0 else if k = 1 ∧ lead.toNat = 0xf0 then 0x90
          else 0x80) ∧
      (continuationBounds lead k).2.toNat =
        (if k = 1 ∧ lead.toNat = 0xed then 0x9f else if k = 1 ∧ lead.toNat = 0xf4 then 0x8f
          else 0xbf) := by
  have e0 : lead = 0xe0 ↔ lead.toNat = 0xe0 := by rw [← UInt8.toNat_inj]; rfl
  have ed : lead = 0xed ↔ lead.toNat = 0xed := by rw [← UInt8.toNat_inj]; rfl
  have f0 : lead = 0xf0 ↔ lead.toNat = 0xf0 := by rw [← UInt8.toNat_inj]; rfl
  have f4 : lead = 0xf4 ↔ lead.toNat = 0xf4 := by rw [← UInt8.toNat_inj]; rfl
  unfold continuationBounds
  by_cases hk : k = 1
  · simp only [hk, beq_self_eq_true, ↓reduceIte, beq_iff_eq, e0, ed, f0, f4, true_and]
    split_ifs <;> simp_all
  · simp [hk]

theorem firstBadContinuation_eq_none_iff (lead : UInt8) (conts : List UInt8) :
    firstBadContinuation lead conts = none ↔
      ∀ x ∈ conts.zipIdx 1, (continuationBounds lead x.2).1.toNat ≤ x.1.toNat ∧
        x.1.toNat ≤ (continuationBounds lead x.2).2.toNat := by
  unfold firstBadContinuation
  rw [List.findSome?_eq_none_iff]
  refine forall_congr' fun x ↦ forall_congr' fun _ ↦ ?_
  simp [UInt8.le_iff_toNat_le]

theorem firstBadContinuation_take {lead : UInt8} {conts : List UInt8}
    (h : firstBadContinuation lead conts = none) (m : Nat) :
    firstBadContinuation lead (conts.take m) = none := by
  rw [firstBadContinuation_eq_none_iff] at h ⊢
  intro x hx
  apply h x
  rw [← List.take_append_drop m conts, List.zipIdx_append]
  exact List.mem_append_left _ hx

/-- `Encodes c lead conts`: the bytes `lead :: conts` are a well-formed sequence for the
character `c`. The lead byte announces their number, no continuation byte is out of its bounds,
and the decoder reads them back as `c`. -/
structure Encodes (c : Char) (lead : UInt8) (conts : List UInt8) : Prop where
  length : sequenceLength lead = some (conts.length + 1)
  conts_ok : firstBadContinuation lead conts = none
  single : conts = [] → Char.ofNat lead.toNat = c
  multi : conts ≠ [] → sequenceChar lead conts = c

/-- **Every character's sequence is well formed.** The four lengths are one argument: the lead
byte's range, the continuation bytes' bounds and the code point are arithmetic on the code
point, which the validity of a character keeps out of the surrogates and below `0x110000`. -/
theorem encodes_utf8EncodeChar (c : Char) :
    ∃ lead conts, String.utf8EncodeChar c = lead :: conts ∧ Encodes c lead conts := by
  have hc : c.val.toNat < 0xd800 ∨ (0xdfff < c.val.toNat ∧ c.val.toNat < 0x110000) := c.valid
  have hback : Char.ofNat c.val.toNat = c := Char.ofNat_toNat c
  unfold String.utf8EncodeChar
  dsimp only
  split_ifs with h1 h2 h3
  · refine ⟨_, [], rfl, ⟨?_, rfl, fun _ ↦ ?_, fun h ↦ absurd rfl h⟩⟩
    · rw [sequenceLength_eq, toNat_ofNat_byte, if_pos (by omega)]
      rfl
    · rw [toNat_ofNat_byte, Nat.mod_eq_of_lt (by omega), hback]
  all_goals
    refine ⟨_, _, rfl, ⟨?_, ?_, (fun h ↦ nomatch h), fun _ ↦ ?_⟩⟩
    · rw [sequenceLength_eq, toNat_ofNat_byte]
      split_ifs <;> first | rfl | omega
    · rw [firstBadContinuation_eq_none_iff]
      intro x hx
      simp only [List.zipIdx_cons, List.zipIdx_nil, List.mem_cons, List.not_mem_nil,
        or_false] at hx
      rcases hx with rfl | rfl | rfl <;>
      · simp only [(continuationBounds_toNat _ _).1, (continuationBounds_toNat _ _).2,
          toNat_ofNat_byte]
        split_ifs <;> omega
    · simp only [sequenceChar, List.length_cons, List.length_nil, List.foldl_cons, List.foldl_nil,
        toNat_ofNat_byte]
      convert hback using 2
      simp only [Nat.reduceAdd, Nat.reduceBEq, beq_self_eq_true, Bool.false_eq_true, ↓reduceIte]
      omega

/-! ## Decoding -/

theorem decodeFrom_nil (final : Bool) (pos : Nat) (acc : List Char) :
    decodeFrom final pos acc [] = .ok (acc.reverse, []) := by
  rw [decodeFrom]

section Sequence

variable {c : Char} {lead : UInt8} {conts : List UInt8}

/-- A well-formed sequence is decoded as its character, and decoding goes on after it. -/
theorem decodeFrom_encodes (h : Encodes c lead conts) (final : Bool) (pos : Nat)
    (acc : List Char) (rest : List UInt8) :
    decodeFrom final pos acc (lead :: conts ++ rest) =
      decodeFrom final (pos + (conts.length + 1)) (c :: acc) rest := by
  rw [List.cons_append, decodeFrom, h.length]
  cases conts with
  | nil =>
    simp only [List.length_nil, Nat.zero_add, List.nil_append]
    rw [h.single rfl]
  | cons b bs =>
    have hn : bs.length + 1 + 1 - 1 = (b :: bs).length := by simp
    simp only [List.length_cons]
    rw [hn, List.take_left, List.drop_left, h.conts_ok, if_neg (Nat.lt_irrefl _),
      h.multi (List.cons_ne_nil _ _)]

/-- A well-formed sequence cut short, with more bytes to come, is kept for later. -/
theorem decodeFrom_cut (h : Encodes c lead conts) {m : Nat} (hm : m < conts.length) (pos : Nat)
    (acc : List Char) :
    decodeFrom false pos acc (lead :: conts.take m) = .ok (acc.reverse, lead :: conts.take m) := by
  rw [decodeFrom, h.length]
  cases conts with
  | nil => cases hm
  | cons b bs =>
    have hlen : (List.take m (b :: bs)).length = m := by simp at hm ⊢; omega
    have htake : List.take (bs.length + 1 + 1 - 1) (List.take m (b :: bs)) =
        List.take m (b :: bs) := by
      rw [List.take_take]
      congr 1
      simp at hm ⊢
      omega
    simp only [List.length_cons]
    rw [htake, firstBadContinuation_take h.conts_ok, hlen, if_pos (by simp at hm; omega)]
    rfl

end Sequence

/-- `CutShort rest q`: the bytes `q` are the start of the first character of `rest`, cut short,
or none at all. -/
def CutShort (rest : List Char) (q : List UInt8) : Prop :=
  q = [] ∨ ∃ c rest', rest = c :: rest' ∧ q <+: String.utf8EncodeChar c ∧
    q.length < (String.utf8EncodeChar c).length

/-- Decoding any first bytes of a text, more to come, gives the characters whole among them and
keeps the bytes of the next one, cut short. -/
theorem decodeFrom_take_utf8 (cs : List Char) (L pos : Nat) (acc : List Char) :
    ∃ ds rest q, cs = ds ++ rest ∧
      (cs.flatMap String.utf8EncodeChar).take L = ds.flatMap String.utf8EncodeChar ++ q ∧
      CutShort rest q ∧
      decodeFrom false pos acc ((cs.flatMap String.utf8EncodeChar).take L) =
        .ok (acc.reverse ++ ds, q) := by
  induction cs generalizing L pos acc with
  | nil => exact ⟨[], [], [], rfl, by simp, .inl rfl, by simp [decodeFrom_nil]⟩
  | cons c cs ih =>
    obtain ⟨lead, conts, henc, hE⟩ := encodes_utf8EncodeChar c
    rw [List.flatMap_cons, henc]
    by_cases hL : conts.length + 1 ≤ L
    · have htake : ((lead :: conts) ++ cs.flatMap String.utf8EncodeChar).take L =
          lead :: conts ++ (cs.flatMap String.utf8EncodeChar).take (L - (conts.length + 1)) := by
        rw [List.take_append, List.take_of_length_le (by simpa using hL)]
        simp
      obtain ⟨ds, rest, q, rfl, hq, hcut, hdec⟩ := ih (L - (conts.length + 1))
        (pos + (conts.length + 1)) (c :: acc)
      refine ⟨c :: ds, rest, q, rfl, ?_, hcut, ?_⟩
      · rw [htake, hq, List.flatMap_cons, henc]
        simp
      · rw [htake, decodeFrom_encodes hE, hdec]
        simp
    · have htake : ((lead :: conts) ++ cs.flatMap String.utf8EncodeChar).take L =
          (lead :: conts).take L :=
        List.take_append_of_le_length (by simp; omega)
      rw [htake]
      cases L with
      | zero => exact ⟨[], c :: cs, [], rfl, by simp, .inl rfl, by simp [decodeFrom_nil]⟩
      | succ m =>
        refine ⟨[], c :: cs, lead :: conts.take m, rfl, by simp, .inr ⟨c, cs, rfl, ?_, ?_⟩, ?_⟩
        · rw [henc]
          exact List.take_prefix (m + 1) (lead :: conts)
        · rw [henc]
          simp
          omega
        · simp only [List.take_succ_cons, List.append_nil]
          exact decodeFrom_cut hE (by omega) pos acc

/-- **Decoding UTF-8 in pieces.** The bytes of characters, read in any pieces, decode to the
characters without a fault: a character cut between two pieces is kept and completed. The
induction is on the pieces; what is pending is always the start of the next character. -/
theorem decodePieces_utf8 (pieces : List (List UInt8)) (rest : List Char) (pending : List UInt8)
    (acc : List Char) (h : pending ++ pieces.flatten = rest.flatMap String.utf8EncodeChar)
    (hcut : CutShort rest pending) :
    decodePieces pending acc pieces = (acc ++ rest, none) := by
  induction pieces generalizing pending acc rest with
  | nil =>
    rw [List.flatten_nil, List.append_nil] at h
    rcases hcut with rfl | ⟨c, rest', rfl, hp, hlen⟩
    · have hrest : rest = [] := by
        rcases rest with _ | ⟨c, rest⟩
        · rfl
        · simp at h
      subst hrest
      simp [decodePieces, decodeUtf8, decodeFrom_nil]
    · rw [h, List.flatMap_cons, List.length_append] at hlen
      omega
  | cons piece pieces ih =>
    have hpre : pending ++ piece =
        (rest.flatMap String.utf8EncodeChar).take (pending ++ piece).length := by
      refine List.prefix_iff_eq_take.mp ⟨pieces.flatten, ?_⟩
      rw [← h, List.flatten_cons, List.append_assoc]
    obtain ⟨ds, rest', q, rfl, hq, hcut', hdec⟩ :=
      decodeFrom_take_utf8 rest (pending ++ piece).length 0 []
    rw [decodePieces, decodeUtf8, hpre, hdec]
    simp only [List.reverse_nil, List.nil_append]
    rw [ih rest' q (acc ++ ds) ?_ hcut', List.append_assoc]
    rw [← hpre] at hq
    rw [List.flatMap_append, List.flatten_cons, ← List.append_assoc, hq, List.append_assoc] at h
    exact List.append_cancel_left h

end Text

/-! ## Byte feeds of texts -/

/-- Bytes read whole, that are the bytes of a text in some pieces, give the lines of the text. -/
theorem Archive.ByteFeed.lines_of_utf8 {f : ByteFeed} {s : String} (hf : f.failure = none)
    (h : (f.pieces.map ByteArray.toList).flatten = s.toUTF8.toList) :
    f.lines = LineFeed.ofText s := by
  unfold Archive.ByteFeed.lines
  rw [hf]
  dsimp only
  rw [decodePieces_utf8 _ s.toList [] [] (by rw [List.nil_append, h, String.toUTF8_toList])
    (.inl rfl)]
  simp

/-- A plain file holding the bytes of a text gives the lines of the text. -/
theorem plainFeed_lines (s : String) : (plainFeed s.toUTF8).lines = LineFeed.ofText s :=
  Archive.ByteFeed.lines_of_utf8 rfl (cutReads_flatten _)

/-- The bytes of a text never start with the gzip signature: `0x8b` continues a sequence, and
cannot follow the one-byte character `0x1f`. -/
theorem startsWithGzipSignature_toUTF8 (s : String) : startsWithGzipSignature s.toUTF8 = false := by
  rw [Bool.eq_false_iff]
  intro h
  simp only [startsWithGzipSignature, Bool.and_eq_true, decide_eq_true_eq, beq_iff_eq,
    ByteArray.getElem!_eq_getD, String.toUTF8_toList] at h
  obtain ⟨⟨-, h0⟩, h1⟩ := h
  generalize s.toList = cs at h0 h1
  rcases cs with _ | ⟨c, cs⟩
  · simp at h0
  obtain ⟨lead, conts, henc, hE⟩ := encodes_utf8EncodeChar c
  rw [List.flatMap_cons, henc] at h0 h1
  simp only [List.cons_append, List.getD_cons_zero, List.getD_cons_succ] at h0 h1
  subst h0
  have hconts : conts = [] := by
    have := hE.length
    rw [show sequenceLength 0x1f = some 1 from rfl] at this
    simpa [eq_comm] using this
  subst hconts
  rcases cs with _ | ⟨c', cs⟩
  · simp at h1
  obtain ⟨lead', conts', henc', hE'⟩ := encodes_utf8EncodeChar c'
  rw [List.nil_append, List.flatMap_cons, henc'] at h1
  simp only [List.cons_append, List.getD_cons_zero] at h1
  subst h1
  have := hE'.length
  rw [show sequenceLength 0x8b = none from rfl] at this
  cases this

end AccessLog

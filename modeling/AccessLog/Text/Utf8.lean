/-!
# Decoding UTF-8

Bytes are decoded into characters as UTF-8, refusing every ill-formed sequence at the first byte
that shows it:

* a byte from `0x80` to `0xc1` or from `0xf5` up cannot start a character (*invalid start
  byte*, the span is that byte);
* a byte that cannot continue the sequence begun so far (*invalid continuation byte*, the span
  is the bytes accepted so far); the second byte of `0xe0`, `0xed`, `0xf0` and `0xf4` has a
  narrower range, which excludes overlong forms, surrogates and values past `0x10ffff`;
* a sequence cut short by the end of the bytes (*unexpected end of data*, the span runs to the
  end) — unless more bytes may follow, in which case the cut sequence is kept for later. When more
  bytes may follow, the last two bytes are also kept if they are `0xed` and a byte from `0xa0` to
  `0xbf`, the start of a surrogate: they become a fault only once the text ends.

A fault records the span within the bytes decoded and the first byte of the span.

Text read in pieces is decoded piece by piece, a cut sequence at the end of one piece being put
in front of the next; at the end of the text a kept sequence is a fault.

## Main statements

* `decodeUtf8_ascii`: a byte below `0x80` is decoded as the character with that code.
-/

namespace AccessLog.Text

/-- Why bytes are not UTF-8. -/
inductive Utf8Problem where
  /-- The byte cannot start a character. -/
  | invalidStart
  /-- The byte cannot continue the character. -/
  | invalidContinuation
  /-- The bytes end inside a character. -/
  | unexpectedEnd
  deriving Repr, DecidableEq, Inhabited

/-- The words of a problem. -/
def Utf8Problem.reason : Utf8Problem → String
  | .invalidStart => "invalid start byte"
  | .invalidContinuation => "invalid continuation byte"
  | .unexpectedEnd => "unexpected end of data"

/-- Ill-formed bytes: their span `[start, stop)` within the bytes decoded, and the first of them. -/
structure Utf8Fault where
  /-- Where the span starts. -/
  start : Nat
  /-- Where the span stops. -/
  stop : Nat
  /-- The first byte of the span. -/
  first : UInt8
  /-- What is wrong. -/
  problem : Utf8Problem
  deriving Repr, DecidableEq, Inhabited

/-- The number of bytes of a character starting with `b`, or `none` if `b` cannot start one. -/
def sequenceLength (b : UInt8) : Option Nat :=
  if b < 0x80 then some 1
  else if b < 0xc2 then none
  else if b < 0xe0 then some 2
  else if b < 0xf0 then some 3
  else if b < 0xf5 then some 4
  else none

/-- The bounds of the byte at place `k` (from one) of a sequence starting with `lead`. -/
def continuationBounds (lead : UInt8) (k : Nat) : UInt8 × UInt8 :=
  if k == 1 then
    if lead == 0xe0 then (0xa0, 0xbf)
    else if lead == 0xed then (0x80, 0x9f)
    else if lead == 0xf0 then (0x90, 0xbf)
    else if lead == 0xf4 then (0x80, 0x8f)
    else (0x80, 0xbf)
  else (0x80, 0xbf)

/-- The place (from one) of the first byte of `conts` that cannot continue `lead`. -/
def firstBadContinuation (lead : UInt8) (conts : List UInt8) : Option Nat :=
  (conts.zipIdx 1).findSome? fun (b, k) =>
    let (lo, hi) := continuationBounds lead k
    if lo ≤ b && b ≤ hi then none else some k

/-- The character of a well-formed sequence. -/
def sequenceChar (lead : UInt8) (conts : List UInt8) : Char :=
  let n := conts.length
  let top : Nat := if n == 1 then lead.toNat % 0x20 else if n == 2 then lead.toNat % 0x10
    else lead.toNat % 0x08
  Char.ofNat (conts.foldl (fun acc b => acc * 64 + b.toNat % 64) top)

/-- Decodes bytes found at position `pos`, into the characters so far (reversed): the
characters and the bytes of a cut sequence kept for later, or a fault. When `final`, nothing
may be kept. -/
def decodeFrom (final : Bool) (pos : Nat) (acc : List Char) :
    List UInt8 → Except Utf8Fault (List Char × List UInt8)
  | [] => .ok (acc.reverse, [])
  | b :: rest =>
    match sequenceLength b with
    | none => .error ⟨pos, pos + 1, b, .invalidStart⟩
    | some 1 => decodeFrom final (pos + 1) (Char.ofNat b.toNat :: acc) rest
    | some n =>
      let conts := rest.take (n - 1)
      match firstBadContinuation b conts with
      | some k =>
        if !final && b == 0xed && rest.length == 1 && conts.all (fun c => 0xa0 ≤ c && c ≤ 0xbf)
        then .ok (acc.reverse, b :: rest)
        else .error ⟨pos, pos + k, b, .invalidContinuation⟩
      | none =>
        if conts.length < n - 1 then
          if final then .error ⟨pos, pos + 1 + conts.length, b, .unexpectedEnd⟩
          else .ok (acc.reverse, b :: rest)
        else decodeFrom final (pos + n) (sequenceChar b conts :: acc) (rest.drop (n - 1))
  termination_by bs => bs.length
  decreasing_by
    · simp
    · simp only [List.length_drop, List.length_cons]; omega

/-- Decodes bytes: the characters and the bytes of a cut sequence kept for later (none when
`final`), or a fault. -/
def decodeUtf8 (bytes : List UInt8) (final : Bool) : Except Utf8Fault (List Char × List UInt8) :=
  decodeFrom final 0 [] bytes

theorem decodeUtf8_ascii (b : UInt8) (h : b < 0x80) (final : Bool) :
    decodeUtf8 [b] final = .ok ([Char.ofNat b.toNat], []) := by
  simp [decodeUtf8, decodeFrom, sequenceLength, h]

/-- Decodes text read in pieces: the characters up to the first fault, and the fault. -/
def decodePieces (pending : List UInt8) (acc : List Char) :
    List (List UInt8) → List Char × Option Utf8Fault
  | [] =>
    match decodeUtf8 pending true with
    | .ok (cs, _) => (acc ++ cs, none)
    | .error f => (acc, some f)
  | piece :: rest =>
    match decodeUtf8 (pending ++ piece) false with
    | .ok (cs, keep) => decodePieces keep (acc ++ cs) rest
    | .error f => (acc, some f)

/-- Decodes the pieces read before a source stopped: nothing at the end is taken as cut short. -/
def decodePiecesBefore (pending : List UInt8) (acc : List Char) :
    List (List UInt8) → List Char × Option Utf8Fault
  | [] => (acc, none)
  | piece :: rest =>
    match decodeUtf8 (pending ++ piece) false with
    | .ok (cs, keep) => decodePiecesBefore keep (acc ++ cs) rest
    | .error f => (acc, some f)

end AccessLog.Text

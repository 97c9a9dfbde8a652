/-!
# Inflating a deflate stream

A deflate stream is a run of blocks, each *stored* (a byte-aligned length, its complement and as
many plain bytes), or coded with the *fixed* Huffman codes, or with *dynamic* codes sent at the
start of the block. A coded block is a run of literals and of back-references (a length and a
distance into the output so far), closed by the end-of-block symbol. The last block is flagged.
Bits are read lowest first within each byte; Huffman codes most significant bit first.

Inflating reads a stream from a given byte of the input and gives the output with how it
ended:

* `finished next`: the last block was read, and `next` is the first byte after the stream;
* `cut`: the input ended inside the stream; the output holds every symbol read in full;
* `failed reason shownAt`: the stream is malformed, for `reason`, which shows once bit `shownAt`
  is read.

Each output byte also records how much input it waits for, in bits: it is *ready* once its
literal, its back-reference (length, distance and their extra bits) or, in a stored block, its
own byte is read; and when the output has no room left just before it, reading has already gone
as far as its *start*: the end of its literal or back-reference, or the end of the header of a
stored block for its first byte and the byte before it for the others. An inflater that is given
part of the input and room for part of the output therefore writes exactly the bytes ready within
that input, and stops with the input read up to the start of the first byte it has no room for.

The reasons, and the moment each is noticed, are those of the common inflate library: a block
type of 3; a stored length that does not match its complement; more than 286 length or 30
distance codes; a code-length code that is over-subscribed or incomplete; a repeat with nothing
to repeat, or past the code lengths; no end-of-block code; literal/length or distance codes that
are over-subscribed, or incomplete beyond a single one-bit code; a code with no symbol; and a
distance beyond the output so far. A code of no length at all is accepted when built and
refused when used; a code-length code of no length at all reads every length as zero, one bit
each.
-/

namespace AccessLog.Archive

/-- Bit `p` of some bytes, counting from the lowest bit of the first byte. -/
def bitAt (bytes : ByteArray) (p : Nat) : Nat :=
  (bytes[p / 8]!.toNat >>> (p % 8)) % 2

/-- Reads `n` bits at bit `pos`, the first lowest: the number and the position after; `none`
if the bytes end first. -/
def readBits (bytes : ByteArray) (pos n : Nat) : Option (Nat × Nat) :=
  if pos + n ≤ 8 * bytes.size then
    some ((List.range n).foldl (fun acc i => acc + bitAt bytes (pos + i) * Nat.pow 2 i) 0, pos + n)
  else none

/-- A canonical Huffman code, given by the number of codes of each length (`counts[l]` for
lengths 1 to 15) and the symbols in code order. -/
structure HuffmanCode where
  /-- The number of codes of each length; index 0 is unused. -/
  counts : Array Nat
  /-- The symbols, by length and then by value. -/
  symbols : Array Nat
  /-- The greatest length in use, 0 when there is none. -/
  longest : Nat
  deriving Inhabited

/-- The canonical code of the given code lengths (0 for a symbol without a code). -/
def HuffmanCode.ofLengths (lens : List Nat) : HuffmanCode :=
  let lengths := List.range' 1 15
  let counts := (List.range 16).map fun l => if l == 0 then 0 else lens.count l
  let symbols := lengths.flatMap fun l => (lens.zipIdx.filter (·.1 == l)).map (·.2)
  let longest := lengths.foldl (fun m l => if lens.contains l then l else m) 0
  ⟨counts.toArray, symbols.toArray, longest⟩

/-- What a code is used for, which decides whether an incomplete code is accepted. -/
inductive CodeUse where
  /-- The code of the code lengths. -/
  | lengths
  /-- The literal/length code. -/
  | literals
  /-- The distance code. -/
  | distances
  deriving DecidableEq, Inhabited

/-- Whether a code is accepted: not over-subscribed, and complete unless it has no code at all
or (outside code lengths) a single code of one bit. -/
def HuffmanCode.accepted (h : HuffmanCode) (use : CodeUse) : Bool :=
  if h.longest == 0 then true
  else
    let left : Int := (List.range' 1 15).foldl
      (fun (acc : Int) l => if acc < 0 then acc else 2 * acc - (h.counts[l]! : Nat)) 1
    if left < 0 then false
    else !(left > 0 && (use == .lengths || h.longest != 1))

/-- The outcome of reading one code. -/
inductive Decoded where
  /-- A symbol, and the position after its code. -/
  | symbol (s pos : Nat)
  /-- The bits read are no code. -/
  | invalid
  /-- The bytes end inside the code. -/
  | short
  deriving Inhabited

/-- Reads a code bit by bit: `code` holds the bits so far (shifted), `first` the first code of
the current length and `index` the place of its symbol. -/
def HuffmanCode.decodeFrom (h : HuffmanCode) (bytes : ByteArray) :
    (fuel len code first index pos : Nat) → Decoded
  | 0, _, _, _, _, _ => .invalid
  | fuel + 1, len, code, first, index, pos =>
    match readBits bytes pos 1 with
    | none => .short
    | some (b, pos) =>
      let code := code + b
      let count := h.counts[len]!
      if code < first + count then .symbol h.symbols[index + (code - first)]! pos
      else h.decodeFrom bytes fuel (len + 1) (2 * code) (2 * (first + count)) (index + count) pos

/-- Reads one code at bit `pos`. A code with no length at all reads one bit and finds no
symbol. -/
def HuffmanCode.decode (h : HuffmanCode) (bytes : ByteArray) (pos : Nat) : Decoded :=
  h.decodeFrom bytes (max h.longest 1) 1 0 0 0 pos

/-- The base and the number of extra bits of the length symbols 257 to 285. -/
def lengthBases : Array (Nat × Nat) :=
  #[(3, 0), (4, 0), (5, 0), (6, 0), (7, 0), (8, 0), (9, 0), (10, 0), (11, 1), (13, 1), (15, 1),
    (17, 1), (19, 2), (23, 2), (27, 2), (31, 2), (35, 3), (43, 3), (51, 3), (59, 3), (67, 4),
    (83, 4), (99, 4), (115, 4), (131, 5), (163, 5), (195, 5), (227, 5), (258, 0)]

/-- The base and the number of extra bits of the distance symbols 0 to 29. -/
def distanceBases : Array (Nat × Nat) :=
  #[(1, 0), (2, 0), (3, 0), (4, 0), (5, 1), (7, 1), (9, 2), (13, 2), (17, 3), (25, 3), (33, 4),
    (49, 4), (65, 5), (97, 5), (129, 6), (193, 6), (257, 7), (385, 7), (513, 8), (769, 8),
    (1025, 9), (1537, 9), (2049, 10), (3073, 10), (4097, 11), (6145, 11), (8193, 12),
    (12289, 12), (16385, 13), (24577, 13)]

/-- The fixed literal/length code. -/
def fixedLiterals : HuffmanCode :=
  .ofLengths (List.replicate 144 8 ++ List.replicate 112 9 ++ List.replicate 24 7 ++
    List.replicate 8 8)

/-- The fixed distance code: 32 codes of five bits, of which the last two name no distance. -/
def fixedDistances : HuffmanCode := .ofLengths (List.replicate 32 5)

/-- The output so far, with the bit positions each byte waits for. -/
structure Produced where
  /-- The bytes. -/
  bytes : ByteArray := ByteArray.empty
  /-- For each byte, the bit position by which it is ready. -/
  ready : Array Nat := #[]
  /-- For each byte, the bit position reading has reached when it is next and there is no room
  for it. -/
  start : Array Nat := #[]
  deriving Inhabited

/-- Appends a byte. -/
def Produced.push (o : Produced) (b : UInt8) (ready start : Nat) : Produced :=
  { bytes := o.bytes.push b, ready := o.ready.push ready, start := o.start.push start }

/-- The number of bytes. -/
def Produced.size (o : Produced) : Nat := o.bytes.size

/-- How an inflation ended. -/
inductive InflateEnd where
  /-- The stream ended; the first byte after it. -/
  | finished (next : Nat)
  /-- The input ended inside the stream. -/
  | cut
  /-- The stream is malformed, which shows at bit `shownAt`. -/
  | failed (reason : String) (shownAt : Nat)
  deriving Repr, DecidableEq, Inhabited

/-- The output of an inflation and how it ended. -/
structure Inflation where
  /-- The bytes produced, with the input each waits for. -/
  produced : Produced
  /-- How the stream ended. -/
  ending : InflateEnd
  deriving Inhabited

/-- The outcome of one block. -/
inductive BlockEnd where
  /-- The block ended at bit `pos`. -/
  | done (pos : Nat) (out : Produced)
  /-- The stream stopped inside the block. -/
  | stop (out : Produced) (ending : InflateEnd)
  deriving Inhabited

/-- Appends `len` bytes copied from `dist` bytes back, byte by byte, so that a copy may overlap
what it writes; all are ready, and started, at bit `pos`. -/
def copyBack (out : Produced) (dist len pos : Nat) : Produced :=
  (List.range len).foldl (fun o _ => o.push o.bytes[o.size - dist]! pos pos) out

/-- Where an invalid code shows: once as many bits as its longest code are read, or the bytes
end. -/
def invalidAt (bytes : ByteArray) (h : HuffmanCode) (pos : Nat) : Nat :=
  min (pos + max h.longest 1) (8 * bytes.size)

/-- Reads the symbols of a coded block. -/
def codedSymbols (bytes : ByteArray) (lit dist : HuffmanCode) :
    (fuel pos : Nat) → Produced → BlockEnd
  | 0, _, out => .stop out .cut
  | fuel + 1, pos, out =>
    match lit.decode bytes pos with
    | .short => .stop out .cut
    | .invalid => .stop out (.failed "invalid literal/length code" (invalidAt bytes lit pos))
    | .symbol s after =>
      if s < 256 then codedSymbols bytes lit dist fuel after (out.push s.toUInt8 after after)
      else if s == 256 then .done after out
      else if s > 285 then .stop out (.failed "invalid literal/length code" after)
      else
        let (base, extra) := lengthBases[s - 257]!
        match readBits bytes after extra with
        | none => .stop out .cut
        | some (e, pos) =>
          match dist.decode bytes pos with
          | .short => .stop out .cut
          | .invalid => .stop out (.failed "invalid distance code" (invalidAt bytes dist pos))
          | .symbol d pos =>
            if d ≥ 30 then .stop out (.failed "invalid distance code" pos)
            else
              let (dbase, dextra) := distanceBases[d]!
              match readBits bytes pos dextra with
              | none => .stop out .cut
              | some (de, pos) =>
                if dbase + de > out.size then
                  .stop out (.failed "invalid distance too far back" pos)
                else
                  codedSymbols bytes lit dist fuel pos (copyBack out (dbase + de) (base + e) pos)

/-- The outcome of reading the code lengths of a dynamic block. -/
inductive LengthsEnd where
  /-- The lengths, and the position after them. -/
  | read (lens : Array Nat) (pos : Nat)
  /-- The stream stopped. -/
  | stop (ending : InflateEnd)
  deriving Inhabited

/-- Reads `total` code lengths with the code-length code `cl`. -/
def readCodeLengths (bytes : ByteArray) (cl : HuffmanCode) (total : Nat) :
    (fuel pos : Nat) → Array Nat → LengthsEnd
  | 0, _, _ => .stop .cut
  | fuel + 1, pos, lens =>
    if lens.size ≥ total then .read lens pos
    else
      let sym : Decoded :=
        if cl.longest == 0 then
          match readBits bytes pos 1 with
          | none => .short
          | some (_, p) => .symbol 0 p
        else cl.decode bytes pos
      match sym with
      | .short | .invalid => .stop .cut
      | .symbol s pos =>
        if s < 16 then readCodeLengths bytes cl total fuel pos (lens.push s)
        else
          let (extra, add) := if s == 16 then (2, 3) else if s == 17 then (3, 3) else (7, 11)
          match readBits bytes pos extra with
          | none => .stop .cut
          | some (e, pos) =>
            if s == 16 && lens.size == 0 then .stop (.failed "invalid bit length repeat" pos)
            else if lens.size + add + e > total then
              .stop (.failed "invalid bit length repeat" pos)
            else
              let v := if s == 16 then lens[lens.size - 1]! else 0
              readCodeLengths bytes cl total fuel pos (lens ++ Array.replicate (add + e) v)

/-- The order in which the lengths of the code-length code are sent. -/
def codeLengthOrder : List Nat :=
  [16, 17, 18, 0, 8, 7, 9, 6, 10, 5, 11, 4, 12, 3, 13, 2, 14, 1, 15]

/-- Reads a dynamic block, from its code descriptions to its end. -/
def dynamicBlock (bytes : ByteArray) (pos : Nat) (out : Produced) : BlockEnd :=
  let fuel := 8 * bytes.size + 1
  match readBits bytes pos 14 with
  | none => .stop out .cut
  | some (v, pos) =>
    let nlen := v % 32 + 257
    let ndist := v / 32 % 32 + 1
    let ncode := v / 1024 + 4
    if nlen > 286 || ndist > 30 then
      .stop out (.failed "too many length or distance symbols" pos)
    else
      match readBits bytes pos (3 * ncode) with
      | none => .stop out .cut
      | some (_, after) =>
        let sent := (List.range ncode).map fun i => (codeLengthOrder[i]!, (readBits bytes
          (pos + 3 * i) 3).map (·.1) |>.getD 0)
        let lens19 := (List.range 19).map fun s => ((sent.find? (·.1 == s)).map (·.2)).getD 0
        let cl := HuffmanCode.ofLengths lens19
        if !cl.accepted .lengths then .stop out (.failed "invalid code lengths set" after)
        else
          match readCodeLengths bytes cl (nlen + ndist) fuel after #[] with
          | .stop e => .stop out e
          | .read lens pos =>
            if lens[256]! == 0 then
              .stop out (.failed "invalid code -- missing end-of-block" pos)
            else
              let lit := HuffmanCode.ofLengths (lens.toList.take nlen)
              let dist := HuffmanCode.ofLengths (lens.toList.drop nlen)
              if !lit.accepted .literals then
                .stop out (.failed "invalid literal/lengths set" pos)
              else if !dist.accepted .distances then
                .stop out (.failed "invalid distances set" pos)
              else codedSymbols bytes lit dist fuel pos out

/-- Reads a stored block after its header bits. -/
def storedBlock (bytes : ByteArray) (pos : Nat) (out : Produced) : BlockEnd :=
  let start := (pos + 7) / 8
  if start + 4 > bytes.size then .stop out .cut
  else
    let len := bytes[start]!.toNat + 256 * bytes[start + 1]!.toNat
    let nlen := bytes[start + 2]!.toNat + 256 * bytes[start + 3]!.toNat
    if len + nlen != 0xffff then .stop out (.failed "invalid stored block lengths" (8 * start + 32))
    else
      let data := start + 4
      let avail := min len (bytes.size - data)
      let out := (List.range avail).foldl (fun o k =>
        o.push bytes[data + k]! (8 * (data + k + 1)) (8 * (data + k))) out
      if avail < len then .stop out .cut else .done (8 * (data + len)) out

/-- Reads blocks from bit `pos` until the last one. -/
def inflateBlocks (bytes : ByteArray) : (fuel pos : Nat) → Produced → Inflation
  | 0, _, out => ⟨out, .cut⟩
  | fuel + 1, pos, out =>
    match readBits bytes pos 3 with
    | none => ⟨out, .cut⟩
    | some (header, pos) =>
      let block : BlockEnd :=
        match header / 2 with
        | 0 => storedBlock bytes pos out
        | 1 => codedSymbols bytes fixedLiterals fixedDistances (8 * bytes.size + 1) pos out
        | 2 => dynamicBlock bytes pos out
        | _ => .stop out (.failed "invalid block type" pos)
      match block with
      | .stop out e => ⟨out, e⟩
      | .done pos out =>
        if header % 2 == 1 then ⟨out, .finished ((pos + 7) / 8)⟩
        else inflateBlocks bytes fuel pos out

/-- Inflates the deflate stream starting at byte `start`. -/
def inflate (bytes : ByteArray) (start : Nat) : Inflation :=
  inflateBlocks bytes (8 * bytes.size + 1) (8 * start) {}

/-- The bytes an inflation produced. -/
def Inflation.output (r : Inflation) : ByteArray := r.produced.bytes

/-- The number of output bytes from `j` on that are ready within `bits` bits of input. -/
def readyUpTo (ready : Array Nat) (bits : Nat) : (fuel j : Nat) → Nat
  | 0, j => j
  | fuel + 1, j => if j < ready.size && ready[j]! ≤ bits then readyUpTo ready bits fuel (j + 1) else j

/-- Where an inflater stands after a call: the output bytes it has written, the input bytes it has
taken in, and whether it has read the end of the stream. -/
structure InflaterState where
  /-- The output bytes written. -/
  written : Nat
  /-- The input bytes taken in. -/
  taken : Nat
  /-- Whether the end of the stream was read. -/
  ended : Bool
  deriving Repr, DecidableEq, Inhabited

/-- One call of an inflater of the stream `r` that has written `written` bytes so far, offered the
input up to byte `upTo` and room for `room` more bytes of output: where it then stands, or the
reason of the fault it reaches, the output of the call being lost.

It writes the bytes ready within the input offered, as many as there is room for. A fault shows
when the input offered reaches it and the output before it fits, except that a distance too far
back is only noticed when there is room to copy. When the room runs out before the output does,
reading has gone as far as the start of the next byte; otherwise everything offered is taken in,
up to the end of the stream when it is read. -/
def Inflation.call (r : Inflation) (written upTo room : Nat) : Except String InflaterState := do
  let total := r.produced.size
  if let .failed m shownAt := r.ending then
    let fits := if m == "invalid distance too far back" then total < written + room
      else total ≤ written + room
    if shownAt ≤ 8 * upTo && fits then throw m
  let avail := readyUpTo r.produced.ready (8 * upTo) (total + 1) written
  let out := min room (avail - written)
  let written := written + out
  match r.ending with
  | .finished next =>
    if written == total && next ≤ upTo then return ⟨written, next, true⟩
    else if out == room && written < total then
      return ⟨written, min upTo ((r.produced.start[written]! + 7) / 8), false⟩
    else return ⟨written, upTo, false⟩
  | _ =>
    if out == room && written < total then
      return ⟨written, min upTo ((r.produced.start[written]! + 7) / 8), false⟩
    else return ⟨written, upTo, false⟩

/-- The bytes ready within the first `upTo` bytes of input, from byte `written` on. -/
def Inflation.readyWithin (r : Inflation) (written upTo : Nat) : Nat :=
  readyUpTo r.produced.ready (8 * upTo) (r.produced.size + 1) written

end AccessLog.Archive

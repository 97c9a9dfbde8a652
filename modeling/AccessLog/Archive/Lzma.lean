import AccessLog.Archive.Gzip

/-!
# LZMA streams

An LZMA stream is read by a range decoder: five bytes start it (the first must be zero, the
other four are the first code), and each bit after that is decoded against an adaptive
probability, the decoder taking in one more byte whenever its range falls below `2^24` — just
before the bit that needs it. Bits come as single bits with their own probabilities, as bit
trees (most significant bit first, or least significant first for the *reverse* trees) and as
direct bits of probability one half.

The stream is a run of symbols, each opened by an *is-match* bit chosen by the state (one of
twelve, recording the kinds of the last symbols) and the position modulo `2^pb`:

* a *literal*: one byte, coded with a bit tree chosen by the low `lp` bits of the position and the
  high `lc` bits of the byte before; right after a match, the byte at the last distance guides the
  tree until the first bit that differs from it;
* a *match*: a length, then a distance (a six-bit slot, then extra bits from reverse trees, from
  direct bits or from the four-bit *align* tree), the last four distances being kept;
* a *repeated match*: one of the last four distances with a new length, or (the *short* form)
  one byte at the last distance.

A length is a choice bit, then a three-bit tree per position state (lengths 2 to 9), or a second
choice bit and another three-bit tree (10 to 17), or an eight-bit tree (18 to 273). The distance
`2^32 - 1` marks the end of the stream, after which the range decoder takes in one more byte if
its range asks for it and must hold a code of zero.

A stream is *corrupt* when its first byte is not zero, when a repeated match comes before any
output, when a distance reaches before the start of the output or beyond the dictionary (at least
4096 bytes, rounded up to a multiple of 16), or when the end mark leaves a code that is not zero.

Like an inflation, a decoding records for each output byte how much input it waits for: the
bytes taken in once its symbol is decoded. A decoder given part of the input writes exactly the
bytes ready within it.

The five property bytes give `lc`, `lp` and `pb` (the first byte is `(pb · 5 + lp) · 9 + lc`, at
most 224, with `lc + lp` at most 4) and the dictionary size (little-endian).
-/

namespace AccessLog.Archive

/-- The parameters of an LZMA stream. -/
structure LzmaProps where
  /-- The number of high bits of the byte before that choose a literal's tree. -/
  lc : Nat
  /-- The number of low bits of the position that choose a literal's tree. -/
  lp : Nat
  /-- The number of low bits of the position that choose a position state. -/
  pb : Nat
  /-- The size of the dictionary asked for. -/
  dictSize : Nat
  deriving Repr, DecidableEq, Inhabited

/-- Reads the five property bytes; `none` when they are not five or name unsupported values. -/
def LzmaProps.ofBytes (bs : ByteArray) : Option LzmaProps :=
  if bs.size != 5 then none
  else
    let d := bs[0]!.toNat
    if d > 224 then none
    else
      let lc := d % 9
      let lp := d % 45 / 9
      if lc + lp > 4 then none
      else some { lc, lp, pb := d / 45, dictSize := littleEndian bs 1 4 }

/-- The dictionary size a decoder uses: at least 4096, rounded up to a multiple of 16. -/
def LzmaProps.window (p : LzmaProps) : Nat := (max p.dictSize 4096 + 15) / 16 * 16

/-- Where the probabilities of each kind of bit start in the one array that holds them all. -/
def isMatchAt : Nat := 0
/-- See `isMatchAt`. -/
def isRepAt : Nat := 192
/-- See `isMatchAt`. -/
def isRepG0At : Nat := 204
/-- See `isMatchAt`. -/
def isRepG1At : Nat := 216
/-- See `isMatchAt`. -/
def isRepG2At : Nat := 228
/-- See `isMatchAt`. -/
def isRep0LongAt : Nat := 240
/-- See `isMatchAt`. -/
def slotAt : Nat := 432
/-- See `isMatchAt`. -/
def specialAt : Nat := 688
/-- See `isMatchAt`. -/
def alignAt : Nat := 803
/-- See `isMatchAt`: the lengths of matches (514 probabilities). -/
def lengthAt : Nat := 819
/-- See `isMatchAt`: the lengths of repeated matches (514 probabilities). -/
def repLengthAt : Nat := 1333
/-- See `isMatchAt`: the literal trees, `0x300` probabilities each. -/
def literalAt : Nat := 1847

/-- An LZMA decoder at work. -/
structure LzmaDecoder where
  /-- The stream. -/
  input : ByteArray
  /-- The parameters. -/
  props : LzmaProps
  /-- The next input byte. -/
  pos : Nat
  /-- The range. -/
  range : UInt32
  /-- The code. -/
  code : UInt32
  /-- The probabilities, out of 2048. -/
  probs : Array UInt32
  /-- The state, from 0 to 11. -/
  state : Nat := 0
  /-- The last four distances, the latest first. -/
  reps : Nat × Nat × Nat × Nat := (0, 0, 0, 0)
  /-- The output. -/
  out : ByteArray := ByteArray.empty
  /-- For each output byte, the input bytes taken in once it is decoded. -/
  ready : Array Nat := #[]
  deriving Inhabited

/-- Why decoding stops inside a symbol. -/
inductive LzmaStop where
  /-- The input ended. -/
  | short
  /-- The stream is corrupt, which shows at the present input position. -/
  | corrupt
  deriving Repr, DecidableEq, Inhabited

/-- Decoding steps: they change the decoder, and may stop it where it stands. -/
abbrev LzmaStep := ExceptT LzmaStop (StateM LzmaDecoder)

/-- Takes in one more byte when the range is below `2^24`. -/
def normalize : LzmaStep Unit := do
  let ok ← modifyGet fun d =>
    if d.range < (0x1000000 : UInt32) then
      if d.pos < d.input.size then
        let next : UInt32 := d.input[d.pos]!.toUInt32
        let code : UInt32 := (d.code <<< (8 : UInt32)) ||| next
        (true, { d with range := d.range <<< (8 : UInt32), code, pos := d.pos + 1 })
      else (false, d)
    else (true, d)
  if !ok then throw .short

/-- Decodes a bit against the probability at `i`, and adapts it. -/
def decodeBit (i : Nat) : LzmaStep Nat := do
  normalize
  modifyGet fun d =>
    let p : UInt32 := d.probs[i]!
    let bound : UInt32 := (d.range >>> (11 : UInt32)) * p
    let probs := d.probs
    let d := { d with probs := #[] }
    if d.code < bound then
      let probs := probs.set! i (p + (((2048 : UInt32) - p) >>> (5 : UInt32)))
      ((0 : Nat), { d with range := bound, probs })
    else
      let probs := probs.set! i (p - (p >>> (5 : UInt32)))
      ((1 : Nat), { d with range := d.range - bound, code := d.code - bound, probs })

/-- Decodes `n` bits of probability one half, the first the most significant. -/
def directBits : (n : Nat) → (acc : Nat) → LzmaStep Nat
  | 0, acc => pure acc
  | n + 1, acc => do
    normalize
    let b ← modifyGet fun d =>
      let half : UInt32 := d.range >>> (1 : UInt32)
      if d.code ≥ half then ((1 : Nat), { d with range := half, code := d.code - half })
      else ((0 : Nat), { d with range := half })
    directBits n (2 * acc + b)

/-- Decodes the remaining `n` bits of a bit tree at `base`, the node so far being `m`. -/
def treeBits (base : Nat) : (n m : Nat) → LzmaStep Nat
  | 0, m => pure m
  | n + 1, m => do
    let b ← decodeBit (base + m)
    treeBits base n (2 * m + b)

/-- Decodes an `n`-bit tree at `base`. -/
def bitTree (base n : Nat) : LzmaStep Nat := do
  return (← treeBits base n 1) - Nat.pow 2 n

/-- Decodes the remaining bits of a reverse tree at `base`, the node so far being `m`, bit `i`
coming next. -/
def reverseBits (base : Nat) : (n m i acc : Nat) → LzmaStep Nat
  | 0, _, _, acc => pure acc
  | n + 1, m, i, acc => do
    let b ← decodeBit (base + m)
    reverseBits base n (2 * m + b) (i + 1) (acc + b * Nat.pow 2 i)

/-- Decodes an `n`-bit reverse tree at `base`. -/
def reverseTree (base n : Nat) : LzmaStep Nat := reverseBits base n 1 0 0

/-- Decodes a length, from 0, with the length probabilities at `base`. -/
def decodeLength (base posState : Nat) : LzmaStep Nat := do
  if (← decodeBit base) == 0 then return ← bitTree (base + 2 + 8 * posState) 3
  let choice ← decodeBit (base + 1)
  if choice == 0 then return 8 + (← bitTree (base + 130 + 8 * posState) 3)
  return 16 + (← bitTree (base + 258) 8)

/-- Decodes the distance of a match of length `len` (from 0), less one. -/
def decodeDistance (len : Nat) : LzmaStep Nat := do
  let slot ← bitTree (slotAt + 64 * min len 3) 6
  if slot < 4 then return slot
  let direct := slot / 2 - 1
  let dist := (2 + slot % 2) * Nat.pow 2 direct
  if slot < 14 then return dist + (← reverseTree (specialAt + dist - slot) direct)
  else
    let high ← directBits (direct - 4) 0
    return dist + 16 * high + (← reverseTree alignAt 4)

/-- The state after a literal. -/
def afterLiteral (s : Nat) : Nat := if s < 4 then 0 else if s < 10 then s - 3 else s - 6

/-- Appends an output byte, ready now. -/
def emitByte (b : UInt8) : LzmaStep Unit :=
  modify fun d =>
    let out := d.out
    let ready := d.ready
    let d := { d with out := ByteArray.empty, ready := #[] }
    { d with out := out.push b, ready := ready.push d.pos }

/-- Appends `len` output bytes copied from `dist + 1` places back, byte by byte, so that a copy
may overlap what it writes; all are ready now. -/
def copyMatch (dist len : Nat) : LzmaStep Unit :=
  modify fun d =>
    let out := d.out
    let ready := d.ready
    let d := { d with out := ByteArray.empty, ready := #[] }
    let grown := (List.range len).foldl (fun (acc : ByteArray × Array Nat) _ =>
      (acc.1.push acc.1[acc.1.size - dist - 1]!, acc.2.push d.pos)) (out, ready)
    { d with out := grown.1, ready := grown.2 }

/-- The output byte `dist + 1` places back. -/
def backByte (dist : Nat) : LzmaStep UInt8 := do
  let d ← get
  return d.out[d.out.size - dist - 1]!

/-- Decodes the bits of a literal guided by `matchByte` until they part, at tree `base`, the
node so far being `m`, at most `n` bits remaining; then the rest without guide. -/
def matchedBits (base : Nat) : (n m matchByte : Nat) → LzmaStep Nat
  | 0, m, _ => pure m
  | n + 1, m, matchByte => do
    let mb := matchByte / 128 % 2
    let b ← decodeBit (base + 256 * (1 + mb) + m)
    let m := 2 * m + b
    if mb != b then treeBits base n m else matchedBits base n m (2 * matchByte % 256)

/-- Decodes a literal. -/
def decodeLiteral : LzmaStep Unit := do
  let d ← get
  let p := d.props
  let n := d.out.size
  let prev := if n == 0 then 0 else d.out[n - 1]!.toNat
  let litState := (n % Nat.pow 2 p.lp) * Nat.pow 2 p.lc + prev / Nat.pow 2 (8 - p.lc)
  let base := literalAt + 0x300 * litState
  let sym ← if d.state < 7 then treeBits base 8 1
    else do
      let matchByte ← backByte d.reps.1
      matchedBits base 8 1 matchByte.toNat
  modify fun d => { d with state := afterLiteral d.state }
  emitByte (sym - 256).toUInt8

/-- Decodes a repeated match after its opening bits. -/
def decodeRepeat (posState state : Nat) : LzmaStep Unit := do
  let d ← get
  if d.out.size == 0 then throw .corrupt
  let (r0, r1, r2, r3) := d.reps
  if (← decodeBit (isRepG0At + state)) == 0 then
    if (← decodeBit (isRep0LongAt + 16 * state + posState)) == 0 then
      modify fun d => { d with state := if state < 7 then 9 else 11 }
      emitByte (← backByte r0)
      return
  else
    if (← decodeBit (isRepG1At + state)) == 0 then
      modify fun d => { d with reps := (r1, r0, r2, r3) }
    else
      let last ← decodeBit (isRepG2At + state)
      modify fun d => { d with reps := if last == 0 then (r2, r0, r1, r3) else (r3, r0, r1, r2) }
  let len ← decodeLength repLengthAt posState
  modify fun d => { d with state := if state < 7 then 8 else 11 }
  copyMatch (← get).reps.1 (len + 2)

/-- Decodes a match after its opening bits; `true` at the end mark. -/
def decodeMatch (posState state : Nat) : LzmaStep Bool := do
  let (r0, r1, r2, _) := (← get).reps
  let len ← decodeLength lengthAt posState
  modify fun d => { d with state := if state < 7 then 7 else 10 }
  let dist ← decodeDistance len
  if dist == 0xFFFFFFFF then
    normalize
    if (← get).code != 0 then throw .corrupt
    return true
  let d ← get
  if dist ≥ min d.out.size d.props.window then throw .corrupt
  modify fun d => { d with reps := (dist, r0, r1, r2) }
  copyMatch dist (len + 2)
  return false

/-- Decodes a symbol; `true` at the end mark. -/
def decodeSymbol : LzmaStep Bool := do
  let d ← get
  let posState := d.out.size % Nat.pow 2 d.props.pb
  let state := d.state
  if (← decodeBit (isMatchAt + 16 * state + posState)) == 0 then
    decodeLiteral
    return false
  if (← decodeBit (isRepAt + state)) == 1 then
    decodeRepeat posState state
    return false
  decodeMatch posState state

/-- How a decoding ended. -/
inductive LzmaEnd where
  /-- The end mark was read; `next` is the first input byte after the stream. -/
  | finished (next : Nat)
  /-- The input ended inside the stream. -/
  | cut
  /-- The stream is corrupt, which shows once `shownAt` input bytes are taken in. -/
  | failed (shownAt : Nat)
  deriving Repr, DecidableEq, Inhabited

/-- The output of a decoding, the input each byte waits for, and how it ended. -/
structure LzmaResult where
  /-- The bytes written. -/
  out : ByteArray
  /-- For each byte, the input bytes taken in once it is decoded. -/
  ready : Array Nat
  /-- How the decoding ended. -/
  ending : LzmaEnd
  deriving Inhabited

/-- Decodes symbols, at most `fuel` of them. -/
def decodeSymbols : (fuel : Nat) → LzmaDecoder → LzmaResult
  | 0, d => ⟨d.out, d.ready, .cut⟩
  | fuel + 1, d =>
    match (decodeSymbol.run).run d with
    | (.ok true, d) => ⟨d.out, d.ready, .finished d.pos⟩
    | (.ok false, d) => decodeSymbols fuel d
    | (.error .short, d) => ⟨d.out, d.ready, .cut⟩
    | (.error .corrupt, d) => ⟨d.out, d.ready, .failed d.pos⟩

/-- Decodes an LZMA stream. Each input byte serves at most a few hundred bits, for a probability
never exceeds `2017 / 2048` and the range must fall by `2^8` before the next byte is taken in,
and each symbol takes at least one bit: so 512 symbols per byte is fuel enough. -/
def decodeLzma (input : ByteArray) (props : LzmaProps) : LzmaResult :=
  if input.size == 0 then ⟨ByteArray.empty, #[], .cut⟩
  else if input[0]! != 0 then ⟨ByteArray.empty, #[], .failed 1⟩
  else if input.size < 5 then ⟨ByteArray.empty, #[], .cut⟩
  else
    let code := (List.range' 1 4).foldl
      (fun (acc : UInt32) i => (acc <<< (8 : UInt32)) ||| input[i]!.toUInt32) 0
    let probs := Array.replicate (literalAt + 0x300 * Nat.pow 2 (props.lc + props.lp)) 1024
    decodeSymbols (512 * (input.size + 1))
      { input, props, pos := 5, range := 0xFFFFFFFF, code, probs }

end AccessLog.Archive

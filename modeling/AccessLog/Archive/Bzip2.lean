import AccessLog.Archive.Crc

/-!
# Bzip2 streams

A bzip2 stream is read bit by bit, the most significant bit of each byte first, and the decoder
takes in a byte only when it needs one of its bits: whatever it learns is known once the byte
holding the last bit it read is taken in. This is what fixes when a block's bytes can be written
and when a broken stream shows.

The stream opens with `BZh` and a digit from `1` to `9`, the largest block in units of 100000
symbols. Blocks follow, each opened by the 48-bit mark `0x314159265359`, and the stream closes
with the mark `0x177245385090` and a check of the whole stream: each block's check in turn,
after rotating the total left by one bit.

A block holds its check, a bit saying whether it is *randomised*, the row of the last column
where the block starts, the byte values it uses (sixteen flags for ranges of sixteen values, then
sixteen flags for each range flagged), the number of Huffman tables (two to six), the table of
each group of fifty symbols (move-to-front positions, in unary), and each table's code lengths
(five bits, then steps of one up or down, each flagged). The symbols are move-to-front positions
among the byte values used, except that runs of the front value are counted in bijective base
two by the symbols `RUNA` and `RUNB`; the last symbol marks the end of the block.

The symbols give the last column of the block's sorted rotations; following each byte to its
place among the sorted bytes gives the bytes in order, from the row named in the header. A
randomised block flips the lowest bit of some bytes, at gaps read from a fixed table. Four equal
bytes are then followed by a count of further copies.

A stream is *broken* when it does not open with the header; when a mark is neither a block's nor
the end's; when the starting row lies past the largest block, or past the block once all of it
is read; when no byte value is used; when there are too few or too many tables, no group, or a
group's table lies past the last; when a code length leaves the range from 1 to 20; when a code
is longer than 20 bits or lies past its table; when a run is counted with 22 symbols or more;
when a block has more symbols than the largest block; when a block's bytes end within the count
of a run; or when a check differs. Only the first 18002 group tables are kept, and the positions
of a table that no code reaches keep what an earlier table left there.

A decoding records each block's bytes and how much input they wait for, and how the stream
ended: at the end mark, cut short, or broken. A decoder given part of the input writes the
blocks complete within it, in pieces as large as its output buffer (see `BzResult.call`).
-/

namespace AccessLog.Archive

/-- The remainder of one byte value, most significant bit first, by the polynomial
`0x04c11db7`. -/
def blockCrcOfByte (n : UInt32) : UInt32 :=
  (List.range 8).foldl (fun c _ =>
    if c &&& 0x80000000 != 0 then (c <<< (1 : UInt32)) ^^^ 0x04c11db7 else c <<< (1 : UInt32))
    (n <<< (24 : UInt32))

/-- The remainders of the 256 byte values. -/
def blockCrcTable : Array UInt32 :=
  Array.ofFn fun (i : Fin 256) => blockCrcOfByte i.val.toUInt32

/-- Feeds one byte to a running remainder. -/
def blockCrcStep (c : UInt32) (b : UInt8) : UInt32 :=
  (c <<< (8 : UInt32)) ^^^ blockCrcTable[((c >>> (24 : UInt32)) ^^^ b.toUInt32).toNat]!

/-- The check of a block's bytes. -/
def blockCheck (bytes : ByteArray) : UInt32 :=
  bytes.foldl blockCrcStep 0xffffffff ^^^ 0xffffffff

/-- Adds a block's check to the check of the stream so far. -/
def combineCheck (total block : UInt32) : UInt32 :=
  ((total <<< (1 : UInt32)) ||| (total >>> (31 : UInt32))) ^^^ block

/-- The gaps between the flipped bytes of a randomised block, used in turn and then again. -/
def randomGaps : Array Nat := #[
  619, 720, 127, 481, 931, 816, 813, 233, 566, 247, 985, 724, 205, 454, 863, 491,
  741, 242, 949, 214, 733, 859, 335, 708, 621, 574, 73, 654, 730, 472, 419, 436,
  278, 496, 867, 210, 399, 680, 480, 51, 878, 465, 811, 169, 869, 675, 611, 697,
  867, 561, 862, 687, 507, 283, 482, 129, 807, 591, 733, 623, 150, 238, 59, 379,
  684, 877, 625, 169, 643, 105, 170, 607, 520, 932, 727, 476, 693, 425, 174, 647,
  73, 122, 335, 530, 442, 853, 695, 249, 445, 515, 909, 545, 703, 919, 874, 474,
  882, 500, 594, 612, 641, 801, 220, 162, 819, 984, 589, 513, 495, 799, 161, 604,
  958, 533, 221, 400, 386, 867, 600, 782, 382, 596, 414, 171, 516, 375, 682, 485,
  911, 276, 98, 553, 163, 354, 666, 933, 424, 341, 533, 870, 227, 730, 475, 186,
  263, 647, 537, 686, 600, 224, 469, 68, 770, 919, 190, 373, 294, 822, 808, 206,
  184, 943, 795, 384, 383, 461, 404, 758, 839, 887, 715, 67, 618, 276, 204, 918,
  873, 777, 604, 560, 951, 160, 578, 722, 79, 804, 96, 409, 713, 940, 652, 934,
  970, 447, 318, 353, 859, 672, 112, 785, 645, 863, 803, 350, 139, 93, 354, 99,
  820, 908, 609, 772, 154, 274, 580, 184, 79, 626, 630, 742, 653, 282, 762, 623,
  680, 81, 927, 626, 789, 125, 411, 521, 938, 300, 821, 78, 343, 175, 128, 250,
  170, 774, 972, 275, 999, 639, 495, 78, 352, 126, 857, 956, 358, 619, 580, 124,
  737, 594, 701, 612, 669, 112, 134, 694, 363, 992, 809, 743, 168, 974, 944, 375,
  748, 52, 600, 747, 642, 182, 862, 81, 344, 805, 988, 739, 511, 655, 814, 334,
  249, 515, 897, 955, 664, 981, 649, 113, 974, 459, 893, 228, 433, 837, 553, 268,
  926, 240, 102, 654, 459, 51, 686, 754, 806, 760, 493, 403, 415, 394, 687, 700,
  946, 670, 656, 610, 738, 392, 760, 799, 887, 653, 978, 321, 576, 617, 626, 502,
  894, 679, 243, 440, 680, 879, 194, 572, 640, 724, 926, 56, 204, 700, 707, 151,
  457, 449, 797, 195, 791, 558, 945, 679, 297, 59, 87, 824, 713, 663, 412, 693,
  342, 606, 134, 108, 571, 364, 631, 212, 174, 643, 304, 329, 343, 97, 430, 751,
  497, 314, 983, 374, 822, 928, 140, 206, 73, 263, 980, 736, 876, 478, 430, 305,
  170, 514, 364, 692, 829, 82, 855, 953, 676, 246, 369, 970, 294, 750, 807, 827,
  150, 790, 288, 923, 804, 378, 215, 828, 592, 281, 565, 555, 710, 82, 896, 831,
  547, 261, 524, 462, 293, 465, 502, 56, 661, 821, 976, 991, 658, 869, 905, 758,
  745, 193, 768, 550, 608, 933, 378, 286, 215, 979, 792, 961, 61, 688, 793, 644,
  986, 403, 106, 366, 905, 644, 372, 567, 466, 434, 645, 210, 389, 550, 919, 135,
  780, 773, 635, 389, 707, 100, 626, 958, 165, 504, 920, 176, 193, 713, 857, 265,
  203, 50, 668, 108, 645, 990, 626, 197, 510, 357, 358, 850, 858, 364, 936, 638
]

/-- Which of the first `n` bytes of a randomised block are flipped: a countdown is loaded with
the next gap whenever it is empty, falls by one at each byte, and flips the byte where it
stands at one. -/
def randomFlips (n : Nat) : Array Bool :=
  let (flips, _, _) := (List.range n).foldl (fun (acc : Array Bool × Nat × Nat) _ =>
    let (flips, toGo, next) := acc
    let (toGo, next) :=
      if toGo == 0 then (randomGaps[next]!, (next + 1) % randomGaps.size) else (toGo, next)
    (flips.push (toGo - 1 == 1), toGo - 1, next)) (#[], 0, 0)
  flips

/-- A stream being read: its bytes and the number of bits read. -/
structure BitReader where
  /-- The stream. -/
  input : ByteArray
  /-- The bits read so far. -/
  bit : Nat := 0
  deriving Inhabited

/-- The bytes taken in: those holding a bit read. -/
def BitReader.taken (r : BitReader) : Nat := (r.bit + 7) / 8

/-- Why reading a stream stops where it stands. -/
inductive BzStop where
  /-- The input ended. -/
  | short
  /-- The stream is broken, which shows at the bits read. -/
  | broken
  deriving Repr, DecidableEq, Inhabited

/-- Reading steps: they read bits, and may stop. -/
abbrev BitStep := ExceptT BzStop (StateM BitReader)

/-- The bit at position `q`, counting from the most significant bit of the first byte. -/
def bitFromTop (input : ByteArray) (q : Nat) : Nat :=
  ((input[q / 8]! >>> (7 - q % 8).toUInt8) &&& 1).toNat

/-- Reads `n` bits as a number, the first the most significant. -/
def takeBits (n : Nat) : BitStep Nat := do
  let r ← get
  if r.input.size * 8 < r.bit + n then throw .short
  set { r with bit := r.bit + n }
  return (List.range n).foldl (fun acc i => 2 * acc + bitFromTop r.input (r.bit + i)) 0

/-- Reads a byte and checks that it is `b`. -/
def expectByte (b : Nat) : BitStep Unit := do
  let got ← takeBits 8
  if got != b then throw .broken

/-- The bits of the numbers up to the longest code: the tables below have this many entries. -/
def codeLimit : Nat := 23

/-- The largest number of symbols a table may code. -/
def alphabetLimit : Nat := 258

/-- A Huffman table as the decoder uses it: the shortest code length; for each length, the
largest code of that length (`limit`) and the code of the first symbol of that length less its
place among the symbols sorted by length (`base`); and the symbols sorted by code length, then
by value (`perm`). -/
structure HuffmanTable where
  /-- The shortest code length. -/
  minLen : Nat
  /-- The largest code of each length. -/
  limit : Array Int
  /-- The offset from a code of each length to its place in `perm`. -/
  base : Array Int
  /-- The symbols sorted by code length; the places past the symbols keep older values. -/
  perm : Array Nat
  deriving Inhabited

/-- Builds the table of code lengths `lens`, over the places `stale` of an earlier table. -/
def HuffmanTable.build (lens : Array Nat) (stale : Array Nat) : HuffmanTable :=
  let minLen := lens.foldl min 32
  let maxLen := lens.foldl max 0
  let lengths := List.range' minLen (maxLen + 1 - minLen)
  let order := lengths.flatMap fun l => (List.range lens.size).filter (lens[·]! == l)
  let perm := order.zipIdx.foldl (fun p (sym, k) => p.set! k sym) stale
  let counts := lens.foldl (fun b l => b.modify (l + 1) (· + 1))
    (Array.replicate codeLimit (0 : Int))
  let cumulative := (List.range' 1 (codeLimit - 1)).foldl
    (fun b i => b.set! i (b[i]! + b[i - 1]!)) counts
  let (limit, _) := lengths.foldl (fun (acc : Array Int × Int) l =>
    let vec := acc.2 + (cumulative[l + 1]! - cumulative[l]!)
    (acc.1.set! l (vec - 1), 2 * vec)) (Array.replicate codeLimit 0, 0)
  let base := (List.range' (minLen + 1) (maxLen - minLen)).foldl
    (fun b l => b.set! l (2 * (limit[l - 1]! + 1) - b[l]!)) cumulative
  { minLen, limit, base, perm }

/-- Reads the rest of a code whose first `zn` bits are `zvec`, one bit at a time. -/
def HuffmanTable.decodeFrom (t : HuffmanTable) : (fuel zn zvec : Nat) → BitStep Nat
  | 0, _, _ => throw .broken
  | fuel + 1, zn, zvec => do
    if zn > 20 then throw .broken
    if (zvec : Int) ≤ t.limit[zn]! then
      let place := (zvec : Int) - t.base[zn]!
      if place < 0 || place ≥ alphabetLimit then throw .broken
      return t.perm[place.toNat]!
    let b ← takeBits 1
    t.decodeFrom fuel (zn + 1) (2 * zvec + b)

/-- Reads one symbol with a table: the shortest code length at once, then bit by bit. -/
def HuffmanTable.decode (t : HuffmanTable) : BitStep Nat := do
  let zvec ← takeBits t.minLen
  t.decodeFrom 22 t.minLen zvec

/-- The most group tables kept. -/
def maxSelectors : Nat := 18002

/-- Reads a number in unary (ones closed by a zero), which must stay below `limit`. -/
def readUnary (limit : Nat) : (fuel j : Nat) → BitStep Nat
  | 0, j => pure j
  | fuel + 1, j => do
    let b ← takeBits 1
    if b == 0 then return j
    if j + 1 ≥ limit then throw .broken
    readUnary limit fuel (j + 1)

/-- Reads `count` group tables, move-to-front coded, keeping the first `maxSelectors`. -/
def readSelectorCodes (groups : Nat) : (count : Nat) → Array Nat → BitStep (Array Nat)
  | 0, acc => pure acc
  | count + 1, acc => do
    let j ← readUnary groups 7 0
    readSelectorCodes groups count (if acc.size < maxSelectors then acc.push j else acc)

/-- Moves the value at place `j` of a list to its front. -/
def moveToFront (xs : Array Nat) (j : Nat) : Array Nat :=
  let x := xs[j]!
  let rec shift (ys : Array Nat) : Nat → Array Nat
    | 0 => ys
    | k + 1 => shift (ys.set! (k + 1) ys[k]!) k
  (shift xs j).set! 0 x

/-- Undoes the move-to-front coding of the group tables. -/
def undoSelectorCodes (groups : Nat) (codes : Array Nat) : Array Nat :=
  (codes.foldl (fun (acc : Array Nat × Array Nat) v =>
    let (order, out) := acc
    (moveToFront order v, out.push order[v]!)) ((Array.range groups), #[])).2

/-- Reads a code length, starting from `curr`: while a flag is set, a second bit steps it down
(one) or up (zero); it must lie from 1 to 20 before each flag. -/
def readLength : (fuel curr : Nat) → BitStep Nat
  | 0, _ => throw .short
  | fuel + 1, curr => do
    if curr < 1 || curr > 20 then throw .broken
    let more ← takeBits 1
    if more == 0 then return curr
    let down ← takeBits 1
    readLength fuel (if down == 0 then curr + 1 else curr - 1)

/-- Reads the code lengths of `count` symbols, each starting from the one before. -/
def readLengths (fuel : Nat) : (count curr : Nat) → Array Nat → BitStep (Array Nat)
  | 0, _, acc => pure acc
  | count + 1, curr, acc => do
    let l ← readLength fuel curr
    readLengths fuel count l (acc.push l)

/-- What a decoder keeps from block to block: the places of each table, and which byte value each
place among the values used stands for. -/
structure BzMemory where
  /-- The symbols of each of the six tables, by place. -/
  perms : Array (Array Nat) := Array.replicate 6 (Array.replicate alphabetLimit 0)
  /-- The byte values used, in order. -/
  values : Array Nat := Array.replicate 256 0
  deriving Inhabited

/-- Reads the next symbol, starting a new group (with its table) after every fifty; `group` is
the number of groups started and `left` the symbols left in the last. -/
def nextSymbol (tables : Array HuffmanTable) (selectors : Array Nat) (group left : Nat) :
    BitStep (Nat × Nat × Nat) := do
  if left == 0 then
    if group ≥ selectors.size then throw .broken
    let sym ← (tables[selectors[group]!]!).decode
    return (sym, group + 1, 49)
  else
    let sym ← (tables[selectors[group - 1]!]!).decode
    return (sym, group, left - 1)

/-- The largest run count: a run of more symbols than this is broken. -/
def runLimit : Nat := 2097152

/-- Reads a run of `RUNA` (0) and `RUNB` (1) symbols from `sym` on, the digit weight being `n`
and the count so far `acc`: gives the count, the symbol after the run and the group position. -/
def readRun (tables : Array HuffmanTable) (selectors : Array Nat) :
    (fuel sym n acc group left : Nat) → BitStep (Nat × Nat × Nat × Nat)
  | 0, _, _, _, _, _ => throw .broken
  | fuel + 1, sym, n, acc, group, left => do
    if n ≥ runLimit then throw .broken
    let acc := acc + (sym + 1) * n
    let (next, group, left) ← nextSymbol tables selectors group left
    if next ≤ 1 then readRun tables selectors fuel next (2 * n) acc group left
    else return (acc, next, group, left)

/-- Adds `count` copies of a byte. -/
def pushCopies (bytes : ByteArray) (b : UInt8) : Nat → ByteArray
  | 0 => bytes
  | count + 1 => pushCopies (bytes.push b) b count

/-- Reads the symbols of a block from `sym` on, up to the end symbol `eob`, into the last column
`column`; `front` is the move-to-front list. -/
def readBlockSymbols (tables : Array HuffmanTable) (selectors : Array Nat) (values : Array Nat)
    (eob blockMax : Nat) :
    (fuel sym : Nat) → (column : ByteArray) → (front : Array Nat) → (group left : Nat) →
    BitStep ByteArray
  | 0, _, _, _, _, _ => throw .short
  | fuel + 1, sym, column, front, group, left => do
    if sym == eob then return column
    if sym ≤ 1 then
      let (count, sym, group, left) ← readRun tables selectors 23 sym 1 0 group left
      if column.size + count > blockMax then throw .broken
      let b := values[front[0]!]!.toUInt8
      readBlockSymbols tables selectors values eob blockMax fuel sym (pushCopies column b count)
        front group left
    else
      if column.size ≥ blockMax then throw .broken
      let v := front[sym - 1]!
      let column := column.push values[v]!.toUInt8
      let front := moveToFront front (sym - 1)
      let (sym, group, left) ← nextSymbol tables selectors group left
      readBlockSymbols tables selectors values eob blockMax fuel sym column front group left

/-- The byte values flagged in sixteen ranges of sixteen. -/
def readUsedValues : BitStep (Array Nat) := do
  let ranges ← takeBits 16
  let mut used : Array Nat := #[]
  for i in List.range 16 do
    if ranges / Nat.pow 2 (15 - i) % 2 == 1 then
      let flags ← takeBits 16
      for j in List.range 16 do
        if flags / Nat.pow 2 (15 - j) % 2 == 1 then used := used.push (16 * i + j)
  return used

/-- What a block's header and symbols give: the last column, the starting row, whether it is
randomised, its check, and what the decoder keeps. -/
structure BlockData where
  /-- The last column of the sorted rotations. -/
  column : ByteArray
  /-- The row where the block starts. -/
  origin : Nat
  /-- Whether some bytes are flipped. -/
  randomised : Bool
  /-- The check stored in the header. -/
  stored : UInt32
  /-- What the decoder keeps for the next block. -/
  memory : BzMemory
  deriving Inhabited

/-- Reads a block after its first mark byte, the largest block being `size` units. -/
def readBlock (size : Nat) (mem : BzMemory) : BitStep BlockData := do
  for b in [0x41, 0x59, 0x26, 0x53, 0x59] do expectByte b
  let stored ← takeBits 32
  let randomised ← takeBits 1
  let origin ← takeBits 24
  if origin > 10 + 100000 * size then throw .broken
  let used ← readUsedValues
  if used.isEmpty then throw .broken
  let values := used.zipIdx.foldl (fun vs (v, k) => vs.set! k v) mem.values
  let alphaSize := used.size + 2
  let groups ← takeBits 3
  if groups < 2 || groups > 6 then throw .broken
  let count ← takeBits 15
  if count < 1 then throw .broken
  let codes ← readSelectorCodes groups count #[]
  let selectors := undoSelectorCodes groups codes
  let fuel := (← get).input.size * 8 + 1
  let mut tables : Array HuffmanTable := #[]
  let mut perms := mem.perms
  for t in List.range groups do
    let curr ← takeBits 5
    let lens ← readLengths fuel alphaSize curr #[]
    let table := HuffmanTable.build lens perms[t]!
    perms := perms.set! t table.perm
    tables := tables.push table
  let (first, group, left) ← nextSymbol tables selectors 0 0
  let column ← readBlockSymbols tables selectors values (used.size + 1) (100000 * size) fuel first
    ByteArray.empty (Array.range 256) group left
  if origin ≥ column.size then throw .broken
  let memory : BzMemory := { perms, values }
  let data : BlockData := ⟨column, origin, randomised == 1, stored.toUInt32, memory⟩
  return data

/-- The bytes of a block in order, and then two more: following each byte of the last column to
its place among the sorted bytes, from the starting row. -/
def BlockData.ordered (d : BlockData) : Array UInt8 :=
  let column := d.column
  let counts := column.foldl (fun c b => c.modify b.toNat (· + 1)) (Array.replicate 256 0)
  let starts := (List.range 256).foldl (fun (acc : Array Nat × Nat) v =>
    (acc.1.push acc.2, acc.2 + counts[v]!)) (#[], 0)
  let (link, _) := (List.range column.size).foldl (fun (acc : Array Nat × Array Nat) i =>
    let v := column[i]!.toNat
    (acc.1.set! acc.2[v]! i, acc.2.modify v (· + 1)))
    (Array.replicate column.size 0, starts.1)
  let (bytes, _) := (List.range (column.size + 2)).foldl (fun (acc : Array UInt8 × Nat) _ =>
    let p := acc.2
    (acc.1.push column[p]!, link[p]!)) (#[], link[d.origin]!)
  if d.randomised then
    let flips := randomFlips bytes.size
    (bytes.zip flips).map fun (b, f) => if f then b ^^^ 1 else b
  else bytes

/-- Undoes the runs of a block whose `n` bytes in order are `seq` (with two more after them),
from the byte `k0` at place `used`: gives the bytes, and whether the block ends within the count
of a run. -/
def undoRuns (seq : Array UInt8) (n : Nat) :
    (fuel used : Nat) → (k0 : UInt8) → ByteArray → ByteArray × Bool
  | 0, _, _, out => (out, true)
  | fuel + 1, used, k0, out =>
    if used > n + 1 then (out, true)
    else if used == n + 1 then (out, false)
    else
      let k1 := seq[used]!
      let used := used + 1
      if k1 != k0 then undoRuns seq n fuel used k1 (out.push k0)
      else if used == n + 1 then undoRuns seq n fuel used k0 (out.push k0)
      else
        let k1 := seq[used]!
        let used := used + 1
        if used == n + 1 then undoRuns seq n fuel used k0 (pushCopies out k0 2)
        else if k1 != k0 then undoRuns seq n fuel used k1 (pushCopies out k0 2)
        else
          let k1 := seq[used]!
          let used := used + 1
          if used == n + 1 then undoRuns seq n fuel used k0 (pushCopies out k0 3)
          else if k1 != k0 then undoRuns seq n fuel used k1 (pushCopies out k0 3)
          else
            let count := seq[used]!.toNat
            undoRuns seq n fuel (used + 2) seq[used + 1]! (pushCopies out k0 (count + 4))

/-- A block's bytes, and whether writing them ends in a fault: within the count of a run, or
with a check that differs from the stored one. -/
def BlockData.bytes (d : BlockData) : ByteArray × Bool :=
  let seq := d.ordered
  let n := d.column.size
  let (out, broken) := undoRuns seq n (n + 3) 1 seq[0]! ByteArray.empty
  (out, broken || blockCheck out != d.stored)

/-- A block as a decoder writes it. -/
structure BzBlock where
  /-- The input bytes taken in once the block is read. -/
  endsAt : Nat
  /-- Its bytes, up to the fault if it has one. -/
  out : ByteArray
  /-- Whether writing it ends in a fault. -/
  fault : Bool
  deriving Inhabited

/-- How a decoding ended. -/
inductive BzEnd where
  /-- The end mark and the stream's check were read once `endsAt` input bytes were taken in;
  `intact` says whether the check matched. -/
  | finished (endsAt : Nat) (intact : Bool)
  /-- The input ended inside the stream, or a block's fault comes first. -/
  | cut
  /-- The stream is broken, which shows once `shownAt` input bytes are taken in. -/
  | broken (shownAt : Nat)
  deriving Repr, DecidableEq, Inhabited

/-- The blocks of a decoding and how it ended. -/
structure BzResult where
  /-- The blocks read, in order. -/
  blocks : Array BzBlock
  /-- How the decoding ended after them. -/
  ending : BzEnd
  deriving Inhabited

/-- What follows a block: another block, or the end with the stream's check. -/
inductive BzPart where
  /-- A block. -/
  | block (d : BlockData)
  /-- The end, with the stream's check. -/
  | finish (stored : UInt32)
  deriving Inhabited

/-- Reads the next part of a stream whose largest block is `size` units. -/
def nextPart (size : Nat) (mem : BzMemory) : BitStep BzPart := do
  let first ← takeBits 8
  if first == 0x17 then
    for b in [0x72, 0x45, 0x38, 0x50, 0x90] do expectByte b
    let stored ← takeBits 32
    return .finish stored.toUInt32
  if first != 0x31 then throw .broken
  return .block (← readBlock size mem)

/-- Reads the header of a stream: gives the largest block, in units. -/
def streamHeader : BitStep Nat := do
  for b in [0x42, 0x5a, 0x68] do expectByte b
  let digit ← takeBits 8
  if digit < 0x31 || digit > 0x39 then throw .broken
  return digit - 0x30

/-- Reads blocks until the end of the stream, the check so far being `total`. -/
def decodeBlocks (size : Nat) :
    (fuel : Nat) → BitReader → BzMemory → UInt32 → Array BzBlock → BzResult
  | 0, _, _, _, acc => ⟨acc, .cut⟩
  | fuel + 1, r, mem, total, acc =>
    match ((nextPart size mem).run).run r with
    | (.error .short, _) => ⟨acc, .cut⟩
    | (.error .broken, r) => ⟨acc, .broken r.taken⟩
    | (.ok (.finish stored), r) => ⟨acc, .finished r.taken (stored == total)⟩
    | (.ok (.block d), r) =>
      let (out, fault) := d.bytes
      let acc := acc.push ⟨r.taken, out, fault⟩
      if fault then ⟨acc, .cut⟩
      else decodeBlocks size fuel r d.memory (combineCheck total (blockCheck out)) acc

/-- Decodes a bzip2 stream. Each block takes at least 48 bits, so a block per input byte is fuel
enough. -/
def decodeBzip2 (input : ByteArray) : BzResult :=
  match (streamHeader.run).run { input } with
  | (.error .short, _) => ⟨#[], .cut⟩
  | (.error .broken, r) => ⟨#[], .broken r.taken⟩
  | (.ok size, r) => decodeBlocks size (input.size + 1) r {} 0 #[]

/-- The sizes by which a decoder's output buffer grows within one call: the first is its size
at the start of the call. -/
def outputGrowth : List Nat :=
  [32768, 65536, 262144, 1048576, 4194304, 8388608, 16777216, 16777216, 33554432, 33554432,
    33554432, 33554432, 67108864, 67108864, 134217728, 134217728]

/-- The `i`-th growth of the output buffer. -/
def outputChunk (i : Nat) : Nat := outputGrowth.getD i 268435456

/-- Where a decoder stands in its output: the block being written or to be read next, and the
bytes of it written. -/
structure BzPlace where
  /-- The block. -/
  block : Nat := 0
  /-- The bytes of it written. -/
  written : Nat := 0
  deriving Inhabited

/-- One call to a decoder that has been given `avail` bytes of input in all, from `p`, with
`room` bytes left in its output buffer, grown `grown` times, after writing `acc` in this call.
The decoder writes each block read within the input; when the buffer is full before the block
is written, it grows, unless the decoder has taken in all its input (it stopped reading at the
end of the block), and then the call ends, the rest waiting for the next. Gives the bytes
written, where it stands and whether the stream ended; or `none` when the stream shows broken. -/
def BzResult.call (r : BzResult) (avail : Nat) :
    (fuel : Nat) → BzPlace → (room grown : Nat) → ByteArray → Option (ByteArray × BzPlace × Bool)
  | 0, p, _, _, acc => some (acc, p, false)
  | fuel + 1, p, room, grown, acc =>
    match r.blocks[p.block]? with
    | some b =>
      if b.endsAt > avail then some (acc, p, false)
      else
        let n := min (b.out.size - p.written) room
        let acc := acc ++ b.out.extract p.written (p.written + n)
        let written := p.written + n
        if written == b.out.size then
          if b.fault then none
          else r.call avail fuel { block := p.block + 1 } (room - n) grown acc
        else if b.endsAt == avail then some (acc, { p with written }, false)
        else r.call avail fuel { p with written } (outputChunk (grown + 1)) (grown + 1) acc
    | none =>
      match r.ending with
      | .finished endsAt intact =>
        if endsAt ≤ avail then (if intact then some (acc, p, true) else none)
        else some (acc, p, false)
      | .broken shownAt => if shownAt ≤ avail then none else some (acc, p, false)
      | .cut => some (acc, p, false)

end AccessLog.Archive

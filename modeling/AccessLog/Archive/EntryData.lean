import AccessLog.Archive.Zip
import AccessLog.Archive.Lzma
import AccessLog.Archive.Bzip2

/-!
# Reading the data of an archive entry

An entry's data is read round by round, as a text reader asks for it: each request is for
`readSize` bytes, and is answered with what was left over from the last round and, when that is
less, what one more round gives (rounds that give nothing being repeated until the entry is
done), cut at `readSize` with the rest kept for the next request. A round reads compressed data
from the archive (at least `minReadSize` bytes, never past the compressed size), decompresses
what it can, cuts the result at the entry's stated size, and checks the entry's CRC-32 once the
entry is done: the data of that round is lost when the check differs. Data that ends before its
compressed size ends the reads with a fault.

* **Stored** data is delivered as read.
* **Deflate** data goes through an inflater with room for one request (see `Inflation.call`);
  what it has not taken in waits for the next round, which reads only what a full request needs
  beyond it. The entry is done at the end of the stream, or once all the data is read and taken
  in, when the inflater also writes everything it still can.
* **LZMA** data starts with a version, the size of the properties and the properties; nothing is
  decoded until more than those bytes are read. The decoder then writes everything ready within
  the data read. A bad property or corrupt data is not a read fault: it stops the reading as an
  error of its own.
* **Bzip2** data goes to a decoder that takes in all it is given and writes the blocks read
  within it (see `BzResult.call`); a broken stream is a read fault.

## Main statements

* `entryReads_done`: an entry that is done with nothing left over gives no more reads.
-/

namespace AccessLog.Archive

/-- The reads of stored data: each takes up to `readSize` bytes of what is left of the stored
size, cut at what is left of the size; the read that ends the data is checked. -/
def storedReads (input : ByteArray) (e : ZipEntry) :
    (fuel pos compressLeft left : Nat) → UInt32 → List ByteArray → ByteFeed
  | 0, _, _, _, _, acc => ⟨acc.reverse, none⟩
  | fuel + 1, pos, compressLeft, left, running, acc =>
    if compressLeft == 0 then
      if running == e.crc.toUInt32 then ⟨acc.reverse, none⟩
      else ⟨acc.reverse, some (.entryChecksum e.name)⟩
    else
      let got := min (min readSize compressLeft) (input.size - pos)
      if got == 0 then ⟨acc.reverse, some .entryEnded⟩
      else
        let data := (input.extract pos (pos + got)).extract 0 left
        let running := crc32Update running data
        let compressLeft := compressLeft - got
        let left := left - data.size
        if compressLeft == 0 || left == 0 then
          if running == e.crc.toUInt32 then ⟨(data :: acc).reverse, none⟩
          else ⟨acc.reverse, some (.entryChecksum e.name)⟩
        else storedReads input e fuel (pos + got) compressLeft left running (data :: acc)

/-- The least number of bytes of compressed data read from the archive at once. -/
def minReadSize : Nat := 4096

/-- Where reading a deflated entry stands. -/
structure DeflateReader where
  /-- The bytes of compressed data read from the archive. -/
  given : Nat := 0
  /-- The bytes of those the inflater has taken in; the others wait for the next round. -/
  taken : Nat := 0
  /-- The bytes the inflater has written. -/
  written : Nat := 0
  /-- The bytes delivered, at most the entry's size. -/
  delivered : Nat := 0
  /-- The check of the bytes delivered. -/
  running : UInt32 := 0
  deriving Inhabited

/-- One round of reading a deflated entry, whose compressed data (as far as the archive holds
it) is `input` and whose inflation is `r`: the bytes it delivers, the new state and whether the
entry is done; or the fault that ends the reading, the bytes of the round being lost.

The round first reads compressed data, unless a full read of it is still waiting: enough to make
a full read with what waits, and at least `minReadSize` bytes, but not past the compressed size.
The inflater is then offered all the data read so far, with room for `readSize` bytes. The entry
is done when the stream ended, or when all its compressed data was read and taken in, in which
case the inflater also writes what is left. The bytes are cut at the entry's size, which also
makes it done; when it is done the check of all the bytes delivered must be the directory's. -/
def DeflateReader.step (input : ByteArray) (e : ZipEntry) (r : Inflation) (s : DeflateReader) :
    Except ReadFault (ByteArray × DeflateReader × Bool) := do
  let waiting := s.given - s.taken
  let given ← if readSize ≤ waiting then pure s.given
    else
      let want := min (max (readSize - waiting) minReadSize) (e.compressedSize - s.given)
      if want == 0 then pure s.given
      else
        let got := min want (input.size - s.given)
        if got == 0 then throw .entryEnded
        pure (s.given + got)
  let st ← (r.call s.written given readSize).mapError .corrupt
  let done := st.ended || (given == e.compressedSize && st.taken == given)
  let written := if done && !st.ended then max st.written (r.readyWithin st.written given)
    else st.written
  let data := (r.produced.bytes.extract s.written written).extract 0 (e.size - s.delivered)
  let delivered := s.delivered + data.size
  let done := done || delivered ≥ e.size
  let running := crc32Update s.running data
  if done && running != e.crc.toUInt32 then throw (.entryChecksum e.name)
  return (data, { given, taken := st.taken, written, delivered, running }, done)

/-- Reads a deflated entry round by round, at most `fuel` rounds, after the reads `acc`. -/
def deflateReads (input : ByteArray) (e : ZipEntry) (r : Inflation) :
    (fuel : Nat) → DeflateReader → List ByteArray → ByteFeed
  | 0, _, acc => ⟨acc, none⟩
  | fuel + 1, s, acc =>
    match s.step input e r with
    | .error f => ⟨acc, some f⟩
    | .ok (data, s, done) =>
      let acc := acc ++ cutReads data
      if done then ⟨acc, none⟩ else deflateReads input e r fuel s acc


/-- Reads an entry request by request, after the reads `acc`: `round s n` is one round asked
for `n` bytes, giving its bytes, the new state and whether the entry is done; `kept` is what the
last round left over. -/
def entryReads {σ : Type} (round : σ → Nat → Except ReadFault (ByteArray × σ × Bool)) :
    (fuel : Nat) → σ → (done : Bool) → (kept : ByteArray) → List ByteArray → ByteFeed
  | 0, _, _, _, acc => ⟨acc, none⟩
  | fuel + 1, s, done, kept, acc =>
    if readSize < kept.size then
      entryReads round fuel s done (kept.extract readSize kept.size)
        (acc ++ [kept.extract 0 readSize])
    else if done || kept.size == readSize then
      if kept.isEmpty then ⟨acc, none⟩
      else entryReads round fuel s done ByteArray.empty (acc ++ [kept])
    else
      let want := readSize - kept.size
      match round s want with
      | .error f => ⟨acc, some f⟩
      | .ok (data, s, done) =>
        if want < data.size then
          entryReads round fuel s done (data.extract want data.size)
            (acc ++ [kept ++ data.extract 0 want])
        else if data.isEmpty then entryReads round fuel s done kept acc
        else entryReads round fuel s done ByteArray.empty (acc ++ [kept ++ data])

theorem entryReads_done {σ : Type} (round : σ → Nat → Except ReadFault (ByteArray × σ × Bool))
    (fuel : Nat) (s : σ) (acc : List ByteArray) :
    entryReads round (fuel + 1) s true ByteArray.empty acc = ⟨acc, none⟩ := by
  have h : ByteArray.empty.isEmpty = true := rfl
  simp [entryReads, readSize, h]

/-- Where reading an LZMA entry stands. -/
structure LzmaReader where
  /-- The bytes of compressed data read from the archive. -/
  given : Nat := 0
  /-- The bytes the decoder has written. -/
  written : Nat := 0
  /-- The bytes delivered, at most the entry's size. -/
  delivered : Nat := 0
  /-- The check of the bytes delivered. -/
  running : UInt32 := 0
  deriving Inhabited

/-- The header of LZMA data in an archive: its length, and the properties when they can be
read. -/
def lzmaHeader (input : ByteArray) : Nat × Option LzmaProps :=
  let size := littleEndian input 2 2
  (4 + size, LzmaProps.ofBytes (input.extract 4 (4 + size)))

/-- One round of reading an LZMA entry, asked for `n` bytes: the compressed data is `input` (as
far as the archive holds it), its header `header` and its decoding `r`. -/
def LzmaReader.round (input : ByteArray) (e : ZipEntry) (header : Nat × Option LzmaProps)
    (r : LzmaResult) (s : LzmaReader) (n : Nat) :
    Except ReadFault (ByteArray × LzmaReader × Bool) := do
  let want := min (max n minReadSize) (e.compressedSize - s.given)
  let given ← if want == 0 then pure s.given
    else
      let got := min want (input.size - s.given)
      if got == 0 then throw .entryEnded
      pure (s.given + got)
  let (data, written, ended) ←
    if given ≤ 4 || given ≤ header.1 then pure (ByteArray.empty, s.written, false)
    else
      match header.2 with
      | none => throw (.lzma "Invalid or unsupported options")
      | some _ =>
        let raw := given - header.1
        if let .failed shownAt := r.ending then
          if shownAt ≤ raw then throw (.lzma "Corrupt input data")
        let avail := readyUpTo r.ready raw (r.out.size + 1) s.written
        let ended := match r.ending with
          | .finished next => next ≤ raw
          | _ => false
        pure (r.out.extract s.written avail, avail, ended)
  let data := data.extract 0 (e.size - s.delivered)
  let delivered := s.delivered + data.size
  let done := ended || given == e.compressedSize || delivered ≥ e.size
  let running := crc32Update s.running data
  if done && running != e.crc.toUInt32 then throw (.entryChecksum e.name)
  return (data, { given, written, delivered, running }, done)

/-- Where reading a bzip2 entry stands. -/
structure BzipReader where
  /-- The bytes of compressed data read from the archive. -/
  given : Nat := 0
  /-- Where the decoder stands in its output. -/
  place : BzPlace := {}
  /-- The bytes delivered, at most the entry's size. -/
  delivered : Nat := 0
  /-- The check of the bytes delivered. -/
  running : UInt32 := 0
  deriving Inhabited

/-- One round of reading a bzip2 entry, asked for `n` bytes: the compressed data is `input` (as
far as the archive holds it) and its decoding `r`. The decoder is given what the round reads, and
the entry is done at the end of the stream or once all its data is read. -/
def BzipReader.round (input : ByteArray) (e : ZipEntry) (r : BzResult) (s : BzipReader)
    (n : Nat) : Except ReadFault (ByteArray × BzipReader × Bool) := do
  let want := min (max n minReadSize) (e.compressedSize - s.given)
  let given ← if want == 0 then pure s.given
    else
      let got := min want (input.size - s.given)
      if got == 0 then throw .entryEnded
      pure (s.given + got)
  match r.call given (2 * r.blocks.size * outputGrowth.length + 2) s.place (outputChunk 0) 0
      ByteArray.empty with
  | none => throw .invalidStream
  | some (data, place, ended) =>
    let data := data.extract 0 (e.size - s.delivered)
    let delivered := s.delivered + data.size
    let done := ended || given == e.compressedSize || delivered ≥ e.size
    let running := crc32Update s.running data
    if done && running != e.crc.toUInt32 then throw (.entryChecksum e.name)
    return (data, { given, place, delivered, running }, done)

/-- The data of an entry whose data starts at `start`, read by read. -/
def entryFeed (bytes : ByteArray) (e : ZipEntry) (start : Nat) : ByteFeed :=
  let avail := min e.compressedSize (bytes.size - start)
  let input := bytes.extract start (start + avail)
  if e.method == 0 then storedReads input e (input.size + 2) 0 e.compressedSize e.size 0 []
  else if e.method == 8 then
    let r := inflate input 0
    deflateReads input e r (input.size + r.produced.size + 2) {} []
  else if e.method == 12 then
    let r := decodeBzip2 input
    let total := r.blocks.foldl (fun n b => n + b.out.size) 0
    entryReads (BzipReader.round input e r) (2 * (input.size + total) + 4) {} false
      ByteArray.empty []
  else
    let header := lzmaHeader input
    let r := match header.2 with
      | some p => decodeLzma (input.extract header.1 input.size) p
      | none => ⟨ByteArray.empty, #[], .cut⟩
    entryReads (LzmaReader.round input e header r) (2 * (input.size + r.out.size) + 4) {} false
      ByteArray.empty []

end AccessLog.Archive

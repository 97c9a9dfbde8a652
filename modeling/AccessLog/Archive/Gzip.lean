import AccessLog.Archive.Crc
import AccessLog.Archive.Fault
import AccessLog.Archive.Inflate

/-!
# Gzip files

A gzip file is a run of members, each a header, a deflate stream, and a trailer holding the
CRC-32 and the length (modulo `2^32`) of the member's data; zero bytes may pad the end.

The header is the signature `1f 8b`, the method (8, deflate), flags, a time, and optional parts
the flags announce: an extra field (its length, then its bytes), a name and a comment (each up to
a zero byte) and a header check (two bytes).

Reading a file delivers each member's data read by read, as the inflater writes it when offered
the file `readSize` bytes at a time, with room for `readSize` bytes (see `Inflation.call`), and
stops with a fault on the first thing that is wrong:

* a member that does not start with the signature (the bytes where it should be are shown), or
  whose method is not deflate;
* a file that ends inside a header, a stream or a trailer;
* a malformed stream — the read that met the fault is lost, the reads before it are delivered;
* a trailer whose check or length does not match the data, after all the data is delivered.

Gzip files are also written here, with the data in stored blocks: a writer that never
compresses still makes files every reader accepts.
-/

namespace AccessLog.Archive

/-- The little-endian number of `n` bytes at `pos`. -/
def littleEndian (bytes : ByteArray) (pos n : Nat) : Nat :=
  (List.range n).foldl (fun acc i => acc + bytes[pos + i]!.toNat * Nat.pow 256 i) 0

/-- The position after a zero-terminated field starting at `pos`, or the end of the bytes. -/
def skipTerminated (bytes : ByteArray) (pos : Nat) : Nat :=
  match (List.range' pos (bytes.size - pos)).find? (fun i => bytes[i]! == 0) with
  | some i => i + 1
  | none => bytes.size

/-- Reads a member header at `pos`: `none` at the end of the file, else where the stream
starts. -/
def memberHeader (bytes : ByteArray) (pos : Nat) : Except ReadFault (Option Nat) := do
  if pos ≥ bytes.size then return none
  let magic := bytes.extract pos (pos + 2)
  if magic.toList != [0x1f, 0x8b] then throw (.notGzip magic.toList)
  if pos + 10 > bytes.size then throw .truncated
  if bytes[pos + 2]! != 8 then throw .unknownMethod
  let flags := bytes[pos + 3]!
  let mut p := pos + 10
  if flags &&& 4 != 0 then
    if p + 2 > bytes.size then throw .truncated
    let extra := littleEndian bytes p 2
    p := p + 2
    if p + extra > bytes.size then throw .truncated
    p := p + extra
  if flags &&& 8 != 0 then p := skipTerminated bytes p
  if flags &&& 16 != 0 then p := skipTerminated bytes p
  if flags &&& 2 != 0 then
    if p + 2 > bytes.size then throw .truncated
    p := p + 2
  return some p

/-- The first position from `pos` that does not hold a zero byte. -/
def skipZeros (bytes : ByteArray) (pos : Nat) : Nat :=
  match (List.range' pos (bytes.size - pos)).find? (fun i => bytes[i]! != 0) with
  | some i => i
  | none => max pos bytes.size

/-- Reads the stream of a member, inflated as `r`, call by call after the reads `acc`: each call
offers the inflater the next `readSize` bytes of the file after what it has taken in, with room for
`readSize` bytes of output. A call that writes nothing is made again, unless it was offered
nothing: then the file ended inside the stream. Gives the reads and the byte after the stream. -/
def memberReads (bytes : ByteArray) (r : Inflation) :
    (fuel written taken : Nat) → List ByteArray → List ByteArray × Except ReadFault Nat
  | 0, _, _, acc => (acc, .error .truncated)
  | fuel + 1, written, taken, acc =>
    let upTo := min (taken + readSize) bytes.size
    match r.call written upTo readSize with
    | .error m => (acc, .error (.corrupt m))
    | .ok st =>
      let acc := if written < st.written then acc ++ [r.output.extract written st.written] else acc
      if st.ended then (acc, .ok st.taken)
      else if st.written == written && upTo == taken then (acc, .error .truncated)
      else memberReads bytes r fuel st.written st.taken acc

/-- Reads the members from `pos` on, after the reads `acc`. -/
def readMembers (bytes : ByteArray) : (fuel pos : Nat) → List ByteArray → ByteFeed
  | 0, _, acc => ⟨acc, none⟩
  | fuel + 1, pos, acc =>
    match memberHeader bytes pos with
    | .error f => ⟨acc, some f⟩
    | .ok none => ⟨acc, none⟩
    | .ok (some start) =>
      let r := inflate bytes start
      match memberReads bytes r (bytes.size + r.produced.size + 2) 0 start acc with
      | (acc, .error f) => ⟨acc, some f⟩
      | (acc, .ok next) =>
        if next + 8 > bytes.size then ⟨acc, some .truncated⟩
        else
          let stored := (littleEndian bytes next 4).toUInt32
          let computed := crc32 r.output
          if stored != computed then ⟨acc, some (.checksum stored computed)⟩
          else if littleEndian bytes (next + 4) 4 != r.output.size % Nat.pow 2 32 then
            ⟨acc, some .wrongLength⟩
          else readMembers bytes fuel (skipZeros bytes (next + 8)) acc

/-- Reads a gzip file. -/
def readGzip (bytes : ByteArray) : ByteFeed := readMembers bytes (bytes.size + 1) 0 []

/-- The little-endian bytes of `n`, `width` of them. -/
def littleEndianBytes (width n : Nat) : List UInt8 :=
  (List.range width).map fun i => (n / Nat.pow 256 i % 256).toUInt8

/-- The largest stored block. -/
def storedBlockSize : Nat := 65535

/-- Deflate stored blocks holding some bytes; the last block is flagged. -/
def storedBlocks (data : ByteArray) : ByteArray :=
  let count := max 1 ((data.size + storedBlockSize - 1) / storedBlockSize)
  (List.range count).foldl (fun out i =>
    let piece := data.extract (i * storedBlockSize) ((i + 1) * storedBlockSize)
    let header := [if i + 1 == count then 1 else 0] ++ littleEndianBytes 2 piece.size ++
      littleEndianBytes 2 (0xffff - piece.size)
    out ++ ⟨header.toArray⟩ ++ piece) ByteArray.empty

/-- A gzip file of one member holding `data`, with time 0. -/
def writeGzip (data : ByteArray) : ByteArray :=
  let header : List UInt8 := [0x1f, 0x8b, 8, 0, 0, 0, 0, 0, 0, 0xff]
  ⟨header.toArray⟩ ++ storedBlocks data ++
    ⟨(littleEndianBytes 4 (crc32 data).toNat ++ littleEndianBytes 4 data.size).toArray⟩

end AccessLog.Archive

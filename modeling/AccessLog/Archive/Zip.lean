import AccessLog.Archive.Gzip

/-!
# Zip archives

A zip archive ends with an *end record* giving the size and place of the *central directory*,
which has one record per entry: its name, flags, method, check, sizes, attributes and the place
of its *local header*, which repeats the name and is followed by the entry's data.

Reading finds the end record among the last 22 bytes when the archive has no comment, else
searches the last 64 KiB and 22 bytes for its signature. A wide-offset locator just before it,
when present, must claim a single disk, and a wide end record before that replaces the sizes.
The central directory is found where the end record says, shifted by any bytes prepended to
the archive. Names are UTF-8 when flagged, else code page 437, and end at a zero character; a
name ending in `/` is a directory. Each entry ends where the next local header (by place) or
the central directory starts.

Opening an entry checks its local header: its signature, a name equal to the directory's, data
that does not run into the next entry, no patched data, no strong or plain encryption, and a
known method (stored, deflate, bzip2 or LZMA).

Archives are also written here, with stored entries laid out in the usual way.

## Main statements

* `decodeName_ascii`: a name in plain ASCII reads the same either way.
-/

namespace AccessLog.Archive

open AccessLog.Text AccessLog.Number

/-- The characters of the bytes `0x80` to `0xff` in code page 437. -/
def codePageHigh : Array Char := (String.join [
    "\u00c7\u00fc\u00e9\u00e2\u00e4\u00e0\u00e5\u00e7\u00ea\u00eb\u00e8\u00ef\u00ee\u00ec\u00c4\u00c5",
    "\u00c9\u00e6\u00c6\u00f4\u00f6\u00f2\u00fb\u00f9\u00ff\u00d6\u00dc\u00a2\u00a3\u00a5\u20a7\u0192",
    "\u00e1\u00ed\u00f3\u00fa\u00f1\u00d1\u00aa\u00ba\u00bf\u2310\u00ac\u00bd\u00bc\u00a1\u00ab\u00bb",
    "\u2591\u2592\u2593\u2502\u2524\u2561\u2562\u2556\u2555\u2563\u2551\u2557\u255d\u255c\u255b\u2510",
    "\u2514\u2534\u252c\u251c\u2500\u253c\u255e\u255f\u255a\u2554\u2569\u2566\u2560\u2550\u256c\u2567",
    "\u2568\u2564\u2565\u2559\u2558\u2552\u2553\u256b\u256a\u2518\u250c\u2588\u2584\u258c\u2590\u2580",
    "\u03b1\u00df\u0393\u03c0\u03a3\u03c3\u00b5\u03c4\u03a6\u0398\u03a9\u03b4\u221e\u03c6\u03b5\u2229",
    "\u2261\u00b1\u2265\u2264\u2320\u2321\u00f7\u2248\u00b0\u2219\u00b7\u221a\u207f\u00b2\u25a0\u00a0"

  ]).toList.toArray

/-- The character of a byte in code page 437. -/
def codePageChar (b : UInt8) : Char :=
  if b < 0x80 then Char.ofNat b.toNat else codePageHigh[b.toNat - 0x80]!

/-- A stored name: UTF-8 when flagged, else code page 437. -/
def decodeName (utf8 : Bool) (bs : List UInt8) : Except Utf8Fault String :=
  if utf8 then (decodeUtf8 bs true).map fun r => String.ofList r.1
  else .ok (String.ofList (bs.map codePageChar))

theorem decodeName_ascii (b : UInt8) (h : b < 0x80) :
    decodeName true [b] = decodeName false [b] := by
  simp [decodeName, decodeUtf8_ascii b h, codePageChar, h, Except.map]

/-- An entry of the central directory. -/
structure ZipEntry where
  /-- The name as stored. -/
  rawName : String
  /-- The name up to its first zero character. -/
  name : String
  /-- The general purpose flags. -/
  flags : Nat
  /-- The compression method. -/
  method : Nat
  /-- The CRC-32 of the data. -/
  crc : Nat
  /-- The size of the stored data. -/
  compressedSize : Nat
  /-- The size of the data. -/
  size : Nat
  /-- The place of the local header. -/
  headerOffset : Int
  /-- The external attributes. -/
  externalAttr : Nat
  /-- Where the entry must end: the next local header or the central directory. -/
  endOffset : Int := 0
  deriving Inhabited

/-- Whether an entry is a directory; `none` for an empty name, which has no last character. -/
def ZipEntry.isDirectory? (e : ZipEntry) : Option Bool :=
  e.name.toList.getLast?.map (· == '/')

/-- The bytes from `start` to `stop`, cut at the end of the archive. -/
def slice (bytes : ByteArray) (start stop : Nat) : ByteArray := bytes.extract start stop

/-- Whether four bytes at `pos` are `P`, `K`, `a`, `b`. -/
def signatureAt (bytes : ByteArray) (pos : Nat) (a b : UInt8) : Bool :=
  pos + 4 ≤ bytes.size && bytes[pos]! == 0x50 && bytes[pos + 1]! == 0x4b && bytes[pos + 2]! == a &&
    bytes[pos + 3]! == b

/-- What the end record says: the size and place of the central directory, where the record
is, and whether a wide end record gave the sizes. -/
structure EndRecord where
  /-- The size of the central directory. -/
  size : Nat
  /-- The place of the central directory. -/
  offset : Nat
  /-- Where the end record starts. -/
  location : Nat
  /-- Whether a wide end record gave the size and place. -/
  wide : Bool
  deriving Inhabited

/-- Reads the wide records before an end record at `loc`. -/
def widenEndRecord (bytes : ByteArray) (r : EndRecord) : Except ArchiveFault (Option EndRecord) :=
  let loc := r.location
  if loc < 20 then .ok (some r)
  else if !signatureAt bytes (loc - 20) 6 7 then .ok (some r)
  else if littleEndian bytes (loc - 16) 4 != 0 || littleEndian bytes (loc - 4) 4 > 1 then
    .error .spansDisks
  else if loc < 76 then .ok none
  else if !signatureAt bytes (loc - 76) 6 6 then .ok (some r)
  else
    let base := loc - 76
    .ok (some ⟨littleEndian bytes (base + 40) 8, littleEndian bytes (base + 48) 8, loc, true⟩)

/-- The end record at `loc`. -/
def endRecordAt (bytes : ByteArray) (loc : Nat) : EndRecord :=
  ⟨littleEndian bytes (loc + 12) 4, littleEndian bytes (loc + 16) 4, loc, false⟩

/-- Finds the end record: `none` when there is none. -/
def findEndRecord (bytes : ByteArray) : Except ArchiveFault (Option EndRecord) :=
  let n := bytes.size
  if n < 22 then .ok none
  else if signatureAt bytes (n - 22) 5 6 && bytes[n - 2]! == 0 && bytes[n - 1]! == 0 then
    widenEndRecord bytes (endRecordAt bytes (n - 22))
  else
    let from_ := n - 65536 - 22
    match ((List.range' from_ (n - from_)).filter (signatureAt bytes · 5 6)).getLast? with
    | none => .ok none
    | some loc => if loc + 22 > n then .ok none else widenEndRecord bytes (endRecordAt bytes loc)

/-- Whether some bytes are a zip archive: an end record can be found. -/
def isZipArchive (bytes : ByteArray) : Except ArchiveFault Bool :=
  (findEndRecord bytes).map Option.isSome

/-- Why an archive entry cannot be opened. -/
inductive EntryProblem where
  /-- The archive is broken, or its bytes unreadable. -/
  | read (fault : ReadFault)
  /-- The entry needs a feature that is not available. -/
  | unsupported (message : String)
  /-- The entry is encrypted. -/
  | encrypted (message : String)
  deriving Inhabited

/-- Reads the wide sizes of an extra field block that gives them. -/
def wideSizes (data : ByteArray) (e : ZipEntry) : Except ArchiveFault ZipEntry := do
  let mut e := e
  let mut p := 0
  if e.size == 0xffffffff then
    if p + 8 > data.size then throw (.corruptWideExtra "File size")
    e := { e with size := littleEndian data p 8 }
    p := p + 8
  if e.compressedSize == 0xffffffff then
    if p + 8 > data.size then throw (.corruptWideExtra "Compress size")
    e := { e with compressedSize := littleEndian data p 8 }
    p := p + 8
  if e.headerOffset == 0xffffffff then
    if p + 8 > data.size then throw (.corruptWideExtra "Header offset")
    e := { e with headerOffset := littleEndian data p 8 }
  return e

/-- Reads the blocks of an extra field, applying wide sizes. -/
def readExtra (extra : ByteArray) (e : ZipEntry) : (fuel pos : Nat) → Except ArchiveFault ZipEntry
  | 0, _ => .ok e
  | fuel + 1, pos =>
    if pos + 4 > extra.size then .ok e
    else
      let tag := littleEndian extra pos 2
      let len := littleEndian extra (pos + 2) 2
      if pos + len + 4 > extra.size then .error (.corruptExtra tag len)
      else
        let e' := if tag == 1 then wideSizes (extra.extract (pos + 4) (pos + 4 + len)) e else .ok e
        match e' with
        | .error f => .error f
        | .ok e => readExtra extra e fuel (pos + 4 + len)

/-- The text of an extract version, in tenths. -/
def versionText (v : Nat) : String := natText (v / 10) ++ "." ++ natText (v % 10)

/-- Reads the central directory records in `data` (`declared` bytes long), from `pos`. -/
def readRecords (data : ByteArray) (declared : Nat) (shift : Int) :
    (fuel pos total : Nat) → List ZipEntry → Except EntryProblem (List ZipEntry)
  | 0, _, _, acc => .ok acc.reverse
  | fuel + 1, pos, total, acc =>
    if total ≥ declared then .ok acc.reverse
    else if pos + 46 > data.size then .error (.read (.archive .truncatedDirectory))
    else if !signatureAt data pos 1 2 then .error (.read (.archive .badDirectoryMagic))
    else
      let field := fun (off n : Nat) => littleEndian data (pos + off) n
      let nameLen := field 28 2
      let extraLen := field 30 2
      let commentLen := field 32 2
      let flags := field 8 2
      let nameBytes := slice data (pos + 46) (pos + 46 + nameLen)
      let p := pos + 46 + nameBytes.size
      let extra := slice data p (p + extraLen)
      let p := p + extra.size
      let p := p + (slice data p (p + commentLen)).size
      match decodeName (flags &&& 0x800 != 0) nameBytes.toList with
      | .error f => .error (.read (.undecodable f))
      | .ok raw =>
        let version := field 6 1
        if version > 63 then .error (.unsupported ("zip file version " ++ versionText version))
        else
          let e : ZipEntry := {
            rawName := raw, name := String.ofList (raw.toList.takeWhile (· != '\x00')),
            flags := flags, method := field 10 2, crc := field 16 4,
            compressedSize := field 20 4, size := field 24 4,
            headerOffset := field 42 4, externalAttr := field 38 4 }
          match readExtra extra e (extra.size + 1) 0 with
          | .error f => .error (.read (.archive f))
          | .ok e =>
            let e := { e with headerOffset := e.headerOffset + shift }
            readRecords data declared shift fuel p (total + 46 + nameLen + extraLen + commentLen)
              (e :: acc)

/-- Inserts an indexed entry into a list ordered by place, highest first, ahead of the entries at
its place or lower. -/
def insertByPlace (x : ZipEntry × Nat) : List (ZipEntry × Nat) → List (ZipEntry × Nat)
  | [] => [x]
  | y :: ys => if y.1.headerOffset ≤ x.1.headerOffset then x :: y :: ys else y :: insertByPlace x ys

/-- Indexed entries ordered by place, highest first; entries at one place keep their order. -/
def sortByPlace (xs : List (ZipEntry × Nat)) : List (ZipEntry × Nat) :=
  xs.foldr insertByPlace []

/-- Gives each entry the place where it must end: the next local header by place, or the
central directory; among entries at the same place, the later ones end where they start. -/
def assignEnds (entries : List ZipEntry) (directory : Int) : List ZipEntry :=
  let indexed := entries.zipIdx
  let ordered := sortByPlace indexed
  let (_, ends) := ordered.foldl (fun (acc : Int × List (Nat × Int)) (e, i) =>
    (e.headerOffset, (i, acc.1) :: acc.2)) (directory, [])
  indexed.map fun (e, i) => { e with endOffset := ((ends.find? (·.1 == i)).map (·.2)).getD 0 }

/-- Reads the central directory of an archive. -/
def readDirectory (bytes : ByteArray) : Except EntryProblem (List ZipEntry) :=
  match findEndRecord bytes with
  | .error f => .error (.read (.archive f))
  | .ok none => .error (.read (.archive .notZip))
  | .ok (some r) =>
    let shift : Int := (r.location : Int) - r.size - r.offset - (if r.wide then 76 else 0)
    let start : Int := r.offset + shift
    if start < 0 then .error (.read (.archive .badDirectoryOffset))
    else
      let data := slice bytes start.toNat (start.toNat + r.size)
      match readRecords data r.size shift (data.size + 1) 0 0 [] with
      | .error p => .error p
      | .ok entries => .ok (assignEnds entries start)

/-- The name of a compression method. -/
def methodName (m : Nat) : String :=
  match m with
  | 0 => "store" | 1 => "shrink" | 2 | 3 | 4 | 5 => "reduce" | 6 | 10 => "implode"
  | 7 => "tokenize" | 8 => "deflate" | 9 => "deflate64" | 12 => "bzip2" | 14 => "lzma"
  | 18 => "terse" | 19 => "lz77" | 97 => "wavpack" | 98 => "ppmd" | _ => natText m

/-- The letter of a file type in a mode. -/
def fileTypeLetter (mode : Nat) : Char :=
  match mode / 0o10000 % 0o20 with
  | 0o10 => '-' | 0o04 => 'd' | 0o12 => 'l' | 0o06 => 'b' | 0o02 => 'c' | 0o01 => 'p'
  | 0o14 => 's' | _ => '?'

/-- The permission letters of a mode: read, write and execute for owner, group and others, with
the set-id and sticky bits shown on the execute letters. -/
def fileMode (mode : Nat) : String :=
  let bit := fun (k : Nat) => mode / Nat.pow 2 k % 2 == 1
  let triple := fun (r w x special : Nat) (on off : Char) =>
    [if bit r then 'r' else '-', if bit w then 'w' else '-',
      if bit special then (if bit x then on else off) else (if bit x then 'x' else '-')]
  String.ofList (fileTypeLetter mode :: triple 8 7 6 11 's' 'S' ++ triple 5 4 3 10 's' 'S' ++
    triple 2 1 0 9 't' 'T')

/-- How an entry is shown in messages. -/
def ZipEntry.describe (e : ZipEntry) : String :=
  let hi := e.externalAttr / 65536
  let lo := e.externalAttr % 65536
  let dir := e.isDirectory?.getD false
  "<ZipInfo filename=" ++ quote e.name ++
    (if e.method != 0 then " compress_type=" ++ methodName e.method else "") ++
    (if hi != 0 then " filemode=" ++ quote (fileMode hi) else "") ++
    (if lo != 0 then " external_attr=" ++ hexText lo else "") ++
    (if !dir || e.size != 0 then " file_size=" ++ natText e.size else "") ++
    (if (!dir || e.compressedSize != 0) && (e.method != 0 || e.size != e.compressedSize) then
      " compress_size=" ++ natText e.compressedSize else "") ++ ">"

/-- Opens an entry: checks its local header and gives where its data starts. -/
def openEntry (bytes : ByteArray) (e : ZipEntry) : Except EntryProblem Nat := do
  if e.headerOffset < 0 then throw (.read .badPosition)
  let h := e.headerOffset.toNat
  if h + 30 > bytes.size then throw (.read (.archive .truncatedHeader))
  if !signatureAt bytes h 3 4 then throw (.read (.archive .badHeaderMagic))
  let nameLen := littleEndian bytes (h + 26) 2
  let extraLen := littleEndian bytes (h + 28) 2
  let localFlags := littleEndian bytes (h + 6) 2
  let nameBytes := slice bytes (h + 30) (h + 30 + nameLen)
  let start := h + 30 + nameBytes.size + extraLen
  if e.flags &&& 0x20 != 0 then throw (.unsupported "compressed patched data (flag bit 5)")
  if e.flags &&& 0x40 != 0 then throw (.unsupported "strong encryption (flag bit 6)")
  match decodeName (localFlags &&& 0x800 != 0) nameBytes.toList with
  | .error f => throw (.read (.undecodable f))
  | .ok n =>
    if n != e.rawName then throw (.read (.archive (.nameMismatch e.rawName nameBytes.toList)))
  if (start : Int) + e.compressedSize > e.endOffset then
    throw (.read (.archive (.overlapped e.rawName)))
  if e.flags &&& 1 != 0 then
    throw (.encrypted ("File " ++ e.describe ++ " is encrypted, password required for extraction"))
  if e.method != 0 && e.method != 8 && e.method != 12 && e.method != 14 then
    throw (.unsupported "That compression method is not supported")
  return start

/-- The little-endian bytes of `n`, `width` of them, as a byte string. -/
def field (width n : Nat) : ByteArray := ⟨(littleEndianBytes width n).toArray⟩

/-- The date field of 1 January 1980. -/
def firstDate : Nat := 33

/-- A zip archive of stored entries, in the given order: each a local header, its name and its
data, then the central directory and the end record. Names outside ASCII are flagged UTF-8;
a name ending in `/` is marked a directory. -/
def writeZip (entries : List (String × ByteArray)) : ByteArray :=
  let (body, records) := entries.foldl (fun (acc : ByteArray × List ByteArray) (name, data) =>
    let nameBytes := name.toUTF8
    let flags := if name.toList.all (·.toNat < 0x80) then 0 else 0x800
    let crc := (crc32 data).toNat
    let common := field 2 flags ++ field 2 0 ++ field 2 0 ++ field 2 firstDate ++ field 4 crc ++
      field 4 data.size ++ field 4 data.size ++ field 2 nameBytes.size ++ field 2 0
    let local_ := ⟨#[0x50, 0x4b, 3, 4, 20, 0]⟩ ++ common ++ nameBytes ++ data
    let attr := if name.endsWith "/" then 0o40775 * 65536 + 0x10 else 0o600 * 65536
    let central := ⟨#[0x50, 0x4b, 1, 2, 20, 3, 20, 0]⟩ ++ common ++ field 2 0 ++ field 2 0 ++
      field 2 0 ++ field 4 attr ++ field 4 acc.1.size ++ nameBytes
    (acc.1 ++ local_, central :: acc.2)) (ByteArray.empty, [])
  let directory := records.reverse.foldl (· ++ ·) ByteArray.empty
  let count := entries.length
  body ++ directory ++ ⟨#[0x50, 0x4b, 5, 6]⟩ ++ field 2 0 ++ field 2 0 ++ field 2 count ++
    field 2 count ++ field 4 directory.size ++ field 4 body.size ++ field 2 0

end AccessLog.Archive

import AccessLog.Text.Quoted
import AccessLog.Text.Utf8
import AccessLog.Number.Text

/-!
# Why a source cannot be read

Reading a log source goes through up to three layers — an archive, a compressed stream, the
UTF-8 text — and each can find its input broken. A `ReadFault` says which layer stopped and
why; an `ArchiveFault` is a broken archive structure. Their messages are the ones users of
these formats know: a broken archive is *not a zip file*, a gzip member whose check does not
match reports both checks in hexadecimal, a byte that is not UTF-8 is shown with its position.

Raw bytes in a message are written as a bytes literal: `b'...'`, where printable ASCII stands
for itself, the quote and the backslash are escaped, tab, line feed and carriage return are
written `\t`, `\n`, `\r`, and every other byte is `\xhh`.
-/

namespace AccessLog.Archive

open AccessLog.Text AccessLog.Number

/-- How one byte is written inside a bytes literal quoted by `q`. -/
def escapeByte (q : Char) (b : UInt8) : List Char :=
  let c := Char.ofNat b.toNat
  if c == '\\' || c == q then ['\\', c]
  else if c == '\t' then ['\\', 't']
  else if c == '\n' then ['\\', 'n']
  else if c == '\r' then ['\\', 'r']
  else if b < 0x20 || b ≥ 0x7f then ['\\', 'x'] ++ hexDigits 2 b.toNat
  else [c]

/-- The bytes literal of some bytes. -/
def bytesQuote (bs : List UInt8) : String :=
  let q := quoteFor (bs.map fun b => Char.ofNat b.toNat)
  String.ofList (['b', q] ++ bs.flatMap (escapeByte q) ++ [q])

/-- The message of bytes that are not UTF-8. -/
def utf8Message (f : Utf8Fault) : String :=
  let head :=
    if f.stop == f.start + 1 then
      "byte 0x" ++ String.ofList (hexDigits 2 f.first.toNat) ++ " in position " ++ natText f.start
    else "bytes in position " ++ natText f.start ++ "-" ++ natText (f.stop - 1)
  "'utf-8' codec can't decode " ++ head ++ ": " ++ f.problem.reason

/-- A broken zip archive structure. -/
inductive ArchiveFault where
  /-- No end record of the central directory was found. -/
  | notZip
  /-- The archive claims to span several disks. -/
  | spansDisks
  /-- The central directory would start before the archive. -/
  | badDirectoryOffset
  /-- A central directory record is cut short. -/
  | truncatedDirectory
  /-- A central directory record has the wrong signature. -/
  | badDirectoryMagic
  /-- An extra field runs past the end of its block. -/
  | corruptExtra (tag size : Nat)
  /-- A wide-size extra field lacks a size it should give. -/
  | corruptWideExtra (field : String)
  /-- A local header is cut short. -/
  | truncatedHeader
  /-- A local header has the wrong signature. -/
  | badHeaderMagic
  /-- The local header names another file than the directory does. -/
  | nameMismatch (directory : String) (header : List UInt8)
  /-- An entry's data runs into the next entry. -/
  | overlapped (name : String)
  deriving Repr, DecidableEq, Inhabited

/-- The message of a broken archive structure. -/
def ArchiveFault.message : ArchiveFault → String
  | .notZip => "File is not a zip file"
  | .spansDisks => "zipfiles that span multiple disks are not supported"
  | .badDirectoryOffset => "Bad offset for central directory"
  | .truncatedDirectory => "Truncated central directory"
  | .badDirectoryMagic => "Bad magic number for central directory"
  | .corruptExtra t n =>
    "Corrupt extra field " ++ String.ofList (hexDigits 4 t) ++ " (size=" ++ natText n ++ ")"
  | .corruptWideExtra f => "Corrupt zip64 extra field. " ++ f ++ " not found."
  | .truncatedHeader => "Truncated file header"
  | .badHeaderMagic => "Bad magic number for file header"
  | .nameMismatch d h =>
    "File name in directory " ++ quote d ++ " and header " ++ bytesQuote h ++ " differ."
  | .overlapped n => "Overlapped entries: " ++ quote n ++ " (possible zip bomb)"

/-- Why a source could not be read further. -/
inductive ReadFault where
  /-- Bytes that are not UTF-8. -/
  | undecodable (fault : Utf8Fault)
  /-- A gzip member does not start with the gzip signature; these are its first bytes. -/
  | notGzip (magic : List UInt8)
  /-- A gzip member uses another method than deflate. -/
  | unknownMethod
  /-- A gzip member ends before its stream does. -/
  | truncated
  /-- A deflate stream is malformed. -/
  | corrupt (reason : String)
  /-- The check stored after a gzip member differs from the check of its data. -/
  | checksum (stored computed : UInt32)
  /-- The length stored after a gzip member differs from the length of its data. -/
  | wrongLength
  /-- The check of an archive entry's data differs from the directory's. -/
  | entryChecksum (name : String)
  /-- An archive entry's data ends before its stated size. -/
  | entryEnded
  /-- The archive structure is broken. -/
  | archive (fault : ArchiveFault)
  /-- An entry's header would lie before the start of the file. -/
  | badPosition
  /-- LZMA data cannot be decoded, for the reason given; this is not a read error. -/
  | lzma (message : String)
  /-- A bzip2 stream is broken. -/
  | invalidStream
  deriving Repr, DecidableEq, Inhabited

/-- A check in hexadecimal, without leading zeros. -/
def hexText (n : Nat) : String :=
  "0x" ++ String.ofList (Nat.toDigits 16 n)

/-- The message of a read fault. -/
def ReadFault.message : ReadFault → String
  | .undecodable f => utf8Message f
  | .notGzip m => "Not a gzipped file (" ++ bytesQuote m ++ ")"
  | .unknownMethod => "Unknown compression method"
  | .truncated => "Compressed file ended before the end-of-stream marker was reached"
  | .corrupt r => "Error -3 while decompressing data: " ++ r
  | .checksum s c => "CRC check failed " ++ hexText s.toNat ++ " != " ++ hexText c.toNat
  | .wrongLength => "Incorrect length of data produced"
  | .entryChecksum n => "Bad CRC-32 for file " ++ quote n
  | .entryEnded => ""
  | .archive f => f.message
  | .badPosition => "[Errno 22] Invalid argument"
  | .lzma m => m
  | .invalidStream => "Invalid data stream"

/-- Bytes delivered by a source, read by read, and why the source stopped early, if it did. -/
structure ByteFeed where
  /-- The bytes of each read. -/
  pieces : List ByteArray
  /-- Why the source broke after these reads, if it did. -/
  failure : Option ReadFault := none
  deriving Inhabited

/-- The size of one read. -/
def readSize : Nat := 8192

/-- Cuts bytes into reads of `readSize` bytes, the last one possibly shorter. -/
def cutReads (bytes : ByteArray) : List ByteArray :=
  (List.range ((bytes.size + readSize - 1) / readSize)).map fun i =>
    bytes.extract (i * readSize) ((i + 1) * readSize)

end AccessLog.Archive

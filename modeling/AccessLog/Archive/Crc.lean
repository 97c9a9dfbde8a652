/-!
# CRC-32

The cyclic redundancy check of gzip members and zip entries: the bits of each byte, lowest first,
are divided by the reflected polynomial `0xedb88320`, starting from all ones and inverting the
remainder at the end. A table of the 256 one-byte remainders makes it a fold over the bytes.
-/

namespace AccessLog.Archive

/-- The remainder of one byte value, by eight shift-and-divide steps. -/
def crcOfByte (n : UInt32) : UInt32 :=
  (List.range 8).foldl (fun c _ => if c &&& 1 == 1 then (c >>> 1) ^^^ 0xedb88320 else c >>> 1) n

/-- The remainders of the 256 byte values. -/
def crcTable : Array UInt32 := Array.ofFn fun (i : Fin 256) => crcOfByte i.val.toUInt32

/-- Feeds one byte to a running (inverted) remainder. -/
def crcStep (c : UInt32) (b : UInt8) : UInt32 :=
  crcTable[((c ^^^ b.toUInt32) &&& 0xff).toNat]! ^^^ (c >>> 8)

/-- Continues a check `crc` over more bytes. -/
def crc32Update (crc : UInt32) (bytes : ByteArray) : UInt32 :=
  bytes.foldl crcStep (crc ^^^ 0xffffffff) ^^^ 0xffffffff

/-- The check of some bytes. -/
def crc32 (bytes : ByteArray) : UInt32 := crc32Update 0 bytes

end AccessLog.Archive

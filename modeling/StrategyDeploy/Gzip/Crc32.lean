/-! The CRC-32 of gzip, computed a byte at a time from a table. -/
namespace StrategyDeploy.Gzip

def crcEntry (b : Nat) : UInt32 :=
  (List.range 8).foldl (fun (c : UInt32) _ =>
    if c &&& 1 = 1 then (c >>> 1) ^^^ 0xEDB88320 else c >>> 1) b.toUInt32

def crcTable : Array UInt32 := (Array.range 256).map crcEntry

def crcStep (c : UInt32) (b : UInt8) : UInt32 :=
  (crcTable.getD ((c ^^^ b.toUInt32) &&& 0xFF).toNat 0) ^^^ (c >>> 8)

def crc32 (bytes : ByteArray) : UInt32 :=
  (bytes.foldl crcStep 0xFFFFFFFF) ^^^ 0xFFFFFFFF

end StrategyDeploy.Gzip

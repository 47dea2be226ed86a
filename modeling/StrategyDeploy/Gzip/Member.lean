import StrategyDeploy.Gzip.Crc32
import StrategyDeploy.Deflate.Encode
import StrategyDeploy.Deflate.Inflate

/-! A gzip member: a header, a deflate stream, and the CRC-32 and size of the data. -/
namespace StrategyDeploy.Gzip

open StrategyDeploy.Deflate

def header : List UInt8 := [0x1f, 0x8b, 8, 0, 0, 0, 0, 0, 0, 0xff]

def le32 (n : Nat) : List UInt8 := (List.range 4).map fun k => (n / Nat.pow 256 k % 256).toUInt8

def readLe32 (data : ByteArray) (pos : Nat) : Nat :=
  (List.range 4).foldl (fun acc k => acc + (data.get! (pos + k)).toNat * Nat.pow 256 k) 0

/-- A deflate codec: a writer of streams, and a reader that starts at a byte position and
stops once it holds `cap` bytes with more to come. -/
structure Codec where
  deflate : ByteArray → ByteArray
  inflate : ByteArray → Nat → Nat → Option Inflated

def codec : Codec := ⟨deflate, inflate⟩

/-- Compresses data into one member, its stream written by `z`. -/
def compressWith (z : Codec) (data : ByteArray) : ByteArray :=
  ⟨header.toArray⟩ ++ z.deflate data ++ ⟨(le32 (crc32 data).toNat ++ le32 data.size).toArray⟩

def compress (data : ByteArray) : ByteArray := compressWith codec data

def flagHeaderCrc : Nat := 2
def flagExtra : Nat := 4
def flagName : Nat := 8
def flagComment : Nat := 16

def reservedFlags : Nat := 0xe0

def afterText (data : ByteArray) (pos : Nat) : Option Nat :=
  ((List.range (data.size - pos)).find? fun k => data.get! (pos + k) = 0).map (pos + · + 1)

/-- The position of the deflate stream after a header, if the header is sound. -/
def bodyStart (data : ByteArray) : Option Nat := do
  if data.size < 10 then none
  if data.get! 0 != 0x1f || data.get! 1 != 0x8b || data.get! 2 != 8 then none
  let flags := (data.get! 3).toNat
  if flags &&& reservedFlags ≠ 0 then none
  let has (f : Nat) : Bool := flags / f % 2 = 1
  let pos := 10
  let pos ← if has flagExtra then
      if data.size < pos + 2 then none
      else
        let next := pos + 2 + (data.get! pos).toNat + 256 * (data.get! (pos + 1)).toNat
        if data.size < next then none else some next
    else some pos
  let pos ← if has flagName then afterText data pos else some pos
  let pos ← if has flagComment then afterText data pos else some pos
  if has flagHeaderCrc then
    if data.size < pos + 2 then none
    let stored := (data.get! pos).toNat + 256 * (data.get! (pos + 1)).toNat
    if (crc32 (data.extract 0 pos)).toNat % 65536 ≠ stored then none
    some (pos + 2)
  else some pos

def windowSize : Nat := 32768

/-- What reading a member gives: its data, or the news that the data is longer than allowed. -/
inductive Unpacked where
  | data (bytes : ByteArray)
  | tooLarge

/-- Reads one member whose data may be at most `limit` bytes, its stream read by `z`; `none`
when it is corrupt. -/
def decompressWith (z : Codec) (data : ByteArray) (limit : Nat) : Option Unpacked := do
  let start ← bodyStart data
  match ← z.inflate data start ((limit / windowSize + 1) * windowSize) with
  | .capped _ => some .tooLarge
  | .complete out next =>
    if limit < out.size then some .tooLarge
    else if data.size < next + 8 then none
    else if readLe32 data next ≠ (crc32 out).toNat || readLe32 data (next + 4) ≠ out.size then none
    else some (.data out)

/-- Reads one member whose data may be at most `limit` bytes; `none` when it is corrupt. -/
def decompress (data : ByteArray) (limit : Nat) : Option Unpacked := decompressWith codec data limit

end StrategyDeploy.Gzip

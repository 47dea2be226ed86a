/-! Bit streams as deflate lays them out, least significant bit first. -/
namespace StrategyDeploy.Deflate

/-- Bytes written so far and the pending bits of the next byte. -/
structure BitWriter where
  bytes : ByteArray := .empty
  pending : Nat := 0
  count : Nat := 0

/-- Writes the low `width` bits of `value`, least significant first. -/
def BitWriter.put (w : BitWriter) (value width : Nat) : BitWriter := Id.run do
  let mut bytes := w.bytes
  let mut pending := w.pending + (value % Nat.pow 2 width) * Nat.pow 2 w.count
  let mut count := w.count + width
  for _ in [0:count / 8] do
    bytes := bytes.push (pending % 256).toUInt8
    pending := pending / 256
    count := count - 8
  return ⟨bytes, pending, count⟩

def BitWriter.align (w : BitWriter) : BitWriter :=
  if w.count = 0 then w else w.put 0 (8 - w.count)

def BitWriter.append (w : BitWriter) (data : ByteArray) : BitWriter :=
  { w with bytes := w.bytes ++ data }

def BitWriter.finish (w : BitWriter) : ByteArray := w.align.bytes

/-- Bytes and the position of the next bit to read. -/
structure BitReader where
  data : ByteArray
  bitPos : Nat := 0

def BitReader.bitAt? (r : BitReader) (i : Nat) : Option Nat :=
  if h : i / 8 < r.data.size then some ((r.data[i / 8].toNat / Nat.pow 2 (i % 8)) % 2) else none

def BitReader.read (r : BitReader) (width : Nat) : Option (Nat × BitReader) := do
  if r.data.size * 8 < r.bitPos + width then none
  let v := (List.range width).foldl (fun acc k =>
    acc + ((r.bitAt? (r.bitPos + k)).getD 0) * Nat.pow 2 k) 0
  return (v, { r with bitPos := r.bitPos + width })

def BitReader.align (r : BitReader) : BitReader :=
  { r with bitPos := (r.bitPos + 7) / 8 * 8 }

def BitReader.bytePos (r : BitReader) : Nat := (r.bitPos + 7) / 8

end StrategyDeploy.Deflate

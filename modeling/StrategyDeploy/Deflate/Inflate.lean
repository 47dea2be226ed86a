import StrategyDeploy.Deflate.Symbols
import StrategyDeploy.Deflate.Huffman
import StrategyDeploy.Deflate.Bits

/-! Reading a deflate stream. -/
namespace StrategyDeploy.Deflate

/-- A code for reading: the number of codes of each length and the symbols in code order. -/
structure Decoder where
  counts : Array Nat
  symbols : Array Nat

def Decoder.ofLengths (lengths : Array Nat) : Decoder :=
  let counts := lengths.foldl (fun c l => if l = 0 then c else c.modify l (· + 1))
    (Array.replicate 16 0)
  let symbols := ((lengths.toList.zipIdx.filter (·.1 != 0)).mergeSort
    fun a b => a.1 ≤ b.1).map (·.2)
  ⟨counts, symbols.toArray⟩

def kraftTotal (lengths : Array Nat) : Nat :=
  lengths.foldl (fun t l => if l = 0 || 15 < l then t else t + Nat.pow 2 (16 - l)) 0

def usedSymbols (lengths : Array Nat) : Nat := (lengths.toList.filter (· != 0)).length

def acceptable (lengths : Array Nat) : Bool :=
  kraftTotal lengths = Nat.pow 2 16 || usedSymbols lengths = 0 ||
    (usedSymbols lengths = 1 && kraftTotal lengths = Nat.pow 2 15)

/-- Reads one symbol, the code's bits first to last. -/
def Decoder.decode (d : Decoder) (r : BitReader) : Option (Nat × BitReader) :=
  go 1 0 0 0 r
where
  go (len code first index : Nat) (r : BitReader) : Option (Nat × BitReader) :=
    if 15 < len then none
    else do
      let (bit, r) ← r.read 1
      let code := code + bit
      let count := d.counts.getD len 0
      if code < first + count then some (d.symbols.getD (index + (code - first)) 0, r)
      else go (len + 1) ((code) * 2) ((first + count) * 2) (index + count) r
  termination_by 16 - len

def fixedDecoders : Decoder × Decoder :=
  (Decoder.ofLengths fixedLiteralLengths, Decoder.ofLengths fixedDistanceLengths)

/-- Reads `count` code lengths with the code-length code, expanding repeats. -/
def readLengths (cl : Decoder) (count : Nat) : Nat → Array Nat → BitReader → Option (Array Nat × BitReader)
  | 0, _, _ => none
  | fuel + 1, acc, r =>
    if count ≤ acc.size then some (acc, r)
    else do
      let (s, r) ← cl.decode r
      let (acc, r) ← if s < 16 then some (acc.push s, r)
        else if s = 16 then do
          let prev ← acc.back?
          let (n, r) ← r.read 2
          some (acc ++ Array.replicate (3 + n) prev, r)
        else if s = 17 then do
          let (n, r) ← r.read 3
          some (acc ++ Array.replicate (3 + n) 0, r)
        else do
          let (n, r) ← r.read 7
          some (acc ++ Array.replicate (11 + n) 0, r)
      if count < acc.size then none else readLengths cl count fuel acc r

def lengthCodeOrder : List Nat := [16, 17, 18, 0, 8, 7, 9, 6, 10, 5, 11, 4, 12, 3, 13, 2, 14, 1, 15]

/-- Reads the codes of a block with its own codes. -/
def readCodes (r : BitReader) : Option (Decoder × Decoder × BitReader) := do
  let (hlit, r) ← r.read 5
  let (hdist, r) ← r.read 5
  let (hclen, r) ← r.read 4
  if 29 < hlit || 29 < hdist then none
  let (clLens, r) ← (lengthCodeOrder.take (hclen + 4)).foldlM (fun (acc, r) s => do
    let (l, r) ← r.read 3
    pure (acc.set! s l, r)) (Array.replicate 19 0, r)
  if kraftTotal clLens ≠ Nat.pow 2 16 then none
  let total := hlit + 257 + hdist + 1
  let (lens, r) ← readLengths (Decoder.ofLengths clLens) total (total + 1) #[] r
  let litLens := lens.extract 0 (hlit + 257)
  let distLens := lens.extract (hlit + 257) total
  if !acceptable litLens || !acceptable distLens || litLens.getD endOfBlock 0 = 0 then none
  return (Decoder.ofLengths litLens, Decoder.ofLengths distLens, r)

/-- Where reading is: between blocks, inside a stored block, or inside a coded block. -/
inductive Mode where
  | header (afterFinal : Bool)
  | stored (remaining : Nat) (final : Bool)
  | coded (lit dist : Decoder) (final : Bool)

/-- How a stream ended: at its last block, with the position of the next whole byte, or at the
cap with more to come. -/
inductive Inflated where
  | complete (out : ByteArray) (next : Nat)
  | capped (out : ByteArray)

def copyBack (out : ByteArray) (cap len dist : Nat) : Option ByteArray := Id.run do
  let mut out := out
  for _ in [0:len] do
    if cap ≤ out.size then return none
    let b := if dist ≤ out.size then out.get! (out.size - dist) else 0
    out := out.push b
  return some out

/-- Reads blocks from `mode` on; `fuel` bounds the steps. The outer `Option` is an error. -/
def inflateFrom (cap : Nat) : Nat → Mode → ByteArray → BitReader → Option Inflated
  | 0, _, _, _ => none
  | fuel + 1, mode, out, r =>
    match mode with
    | .header true => some (.complete out r.bytePos)
    | .header false => do
      let (final, r) ← r.read 1
      let (kind, r) ← r.read 2
      if kind = 0 then
        let r := r.align
        let (len, r) ← r.read 16
        let (nlen, r) ← r.read 16
        if len + nlen ≠ 65535 then none
        inflateFrom cap fuel (.stored len (final = 1)) out r
      else if kind = 1 then
        inflateFrom cap fuel (.coded fixedDecoders.1 fixedDecoders.2 (final = 1)) out r
      else if kind = 2 then do
        let (lit, dist, r) ← readCodes r
        inflateFrom cap fuel (.coded lit dist (final = 1)) out r
      else none
    | .stored 0 final => inflateFrom cap fuel (.header final) out r
    | .stored (n + 1) final =>
      if cap ≤ out.size then some (.capped out)
      else do
        let (b, r) ← r.read 8
        inflateFrom cap fuel (.stored n final) (out.push b.toUInt8) r
    | .coded lit dist final => do
      let (s, r) ← lit.decode r
      if s < 256 then
        if cap ≤ out.size then some (.capped out)
        else inflateFrom cap fuel mode (out.push s.toUInt8) r
      else if s = 256 then inflateFrom cap fuel (.header final) out r
      else if 285 < s then none
      else do
        let i := s - 257
        let (extra, r) ← r.read (lengthExtraBits.getD i 0)
        let len := lengthBases.getD i 0 + extra
        let (ds, r) ← dist.decode r
        if 29 < ds then none
        let (dextra, r) ← r.read (distanceExtraBits.getD ds 0)
        let d := distanceBases.getD ds 0 + dextra
        match copyBack out cap len d with
        | some out => inflateFrom cap fuel mode out r
        | none => some (.capped out)

/-- Reads a deflate stream starting at byte `start`, stopping at `cap` bytes of output. -/
def inflate (data : ByteArray) (start cap : Nat) : Option Inflated :=
  inflateFrom cap (8 * data.size + 2) (.header false) .empty ⟨data, 8 * start⟩

end StrategyDeploy.Deflate

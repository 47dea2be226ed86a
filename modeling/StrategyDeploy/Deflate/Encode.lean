import StrategyDeploy.Deflate.Matcher
import StrategyDeploy.Deflate.Huffman
import StrategyDeploy.Deflate.Bits

/-! Writing blocks of tokens as a deflate stream. -/
namespace StrategyDeploy.Deflate

def symbolCounts (tokens : Array Token) : Array Nat × Array Nat :=
  tokens.foldl (fun (lit, dist) t =>
    match t with
    | .literal b => (lit.modify b.toNat (· + 1), dist)
    | .copy l d => (lit.modify (lengthCode l).1 (· + 1), dist.modify (distanceCode d).1 (· + 1)))
    ((Array.replicate 288 0).set! endOfBlock 1, Array.replicate 32 0)

/-- A code: the length and the bit-reversed code of each symbol. -/
structure Code where
  lengths : Array Nat
  codes : Array Nat

def Code.ofLengths (lengths : Array Nat) (limit : Nat) : Code :=
  ⟨lengths, canonicalCodes lengths limit⟩

def BitWriter.symbol (w : BitWriter) (c : Code) (s : Nat) : BitWriter :=
  w.put (c.codes.getD s 0) (c.lengths.getD s 0)

/-- Writes tokens and the end of block. -/
def BitWriter.tokens (w : BitWriter) (lit dist : Code) (tokens : Array Token) : BitWriter :=
  let w := tokens.foldl (fun w t =>
    match t with
    | .literal b => w.symbol lit b.toNat
    | .copy l d =>
      let (s, bits, extra) := lengthCode l
      let (ds, dbits, dextra) := distanceCode d
      (((w.symbol lit s).put extra bits).symbol dist ds).put dextra dbits) w
  w.symbol lit endOfBlock

def fixedCodes : Code × Code :=
  (Code.ofLengths fixedLiteralLengths 15, Code.ofLengths fixedDistanceLengths 15)

/-- Run-length coding of code lengths: the symbols with their extra bits, and their counts. -/
structure LengthPacker where
  packed : Array (Nat × Nat × Nat) := #[]
  counts : Array Nat := Array.replicate 19 0
  zeros : Nat := 0
  repeats : Nat := 0
  prev : Nat := 0xFF

def LengthPacker.emit (p : LengthPacker) (s bits extra : Nat) : LengthPacker :=
  { p with packed := p.packed.push (s, bits, extra), counts := p.counts.modify s (· + 1) }

def LengthPacker.flushRepeats (p : LengthPacker) : LengthPacker :=
  if p.repeats = 0 then p
  else
    let p' := if p.repeats < 3 then
        (List.range p.repeats).foldl (fun q _ => q.emit p.prev 0 0) p
      else p.emit 16 2 (p.repeats - 3)
    { p' with repeats := 0 }

def LengthPacker.flushZeros (p : LengthPacker) : LengthPacker :=
  if p.zeros = 0 then p
  else
    let p' := if p.zeros < 3 then (List.range p.zeros).foldl (fun q _ => q.emit 0 0 0) p
      else if p.zeros ≤ 10 then p.emit 17 3 (p.zeros - 3)
      else p.emit 18 7 (p.zeros - 11)
    { p' with zeros := 0 }

/-- Feeds one code length. -/
def LengthPacker.feed (p : LengthPacker) (len : Nat) : LengthPacker :=
  let p :=
    if len = 0 then
      let p := { p.flushRepeats with zeros := p.zeros + 1 }
      if p.zeros = 138 then p.flushZeros else p
    else
      let p := p.flushZeros
      if len ≠ p.prev then (p.flushRepeats).emit len 0 0
      else
        let p := { p with repeats := p.repeats + 1 }
        if p.repeats = 6 then p.flushRepeats else p
  { p with prev := len }

def LengthPacker.finish (p : LengthPacker) : LengthPacker :=
  if p.repeats ≠ 0 then p.flushRepeats else p.flushZeros

def lengthOrder : List Nat := [16, 17, 18, 0, 8, 7, 9, 6, 10, 5, 11, 4, 12, 3, 13, 2, 14, 1, 15]

def keptPrefix (xs : List Nat) : Nat := (xs.reverse.dropWhile (· = 0)).length

/-- Writes a block with its own codes. -/
def BitWriter.dynamicBlock (w : BitWriter) (tokens : Array Token) : BitWriter :=
  let (litCounts, distCounts) := symbolCounts tokens
  let litLens := codeLengths litCounts 15
  let distLens := codeLengths distCounts 15
  let numLit := 257 + keptPrefix ((litLens.toList.drop 257).take 29)
  let numDist := 1 + keptPrefix ((distLens.toList.drop 1).take 29)
  let packer := ((litLens.toList.take numLit ++ distLens.toList.take numDist).foldl
    LengthPacker.feed {}).finish
  let clLens := codeLengths packer.counts 7
  let cl := Code.ofLengths clLens 7
  let numCl := max 4 (keptPrefix (lengthOrder.map fun s => clLens.getD s 0))
  let w := ((w.put 2 2).put (numLit - 257) 5 |>.put (numDist - 1) 5).put (numCl - 4) 4
  let w := (lengthOrder.take numCl).foldl (fun w s => w.put (clLens.getD s 0) 3) w
  let w := packer.packed.foldl (fun w (s, bits, extra) => (w.symbol cl s).put extra bits) w
  w.tokens (Code.ofLengths litLens 15) (Code.ofLengths distLens 15) tokens

def BitWriter.fixedBlock (w : BitWriter) (tokens : Array Token) : BitWriter :=
  (w.put 1 2).tokens fixedCodes.1 fixedCodes.2 tokens

def BitWriter.storedBlock (w : BitWriter) (input : ByteArray) (b : Block) : BitWriter :=
  let w := (w.put 0 2).align
  let w := (w.put (b.size % 65536) 16).put (65535 - b.size % 65536) 16
  w.append (input.extract b.start (b.start + b.size))

def BitWriter.block (input : ByteArray) (w : BitWriter) (b : Block) : BitWriter :=
  let w := w.put (if b.final then 1 else 0) 1
  let mark := w.bytes.size
  let coded := if b.size < 48 then w.fixedBlock b.tokens else w.dynamicBlock b.tokens
  let expanded := 32 < b.size && b.size ≤ coded.bytes.size - mark + 1 && b.storable
  let w := if expanded then w.storedBlock input b else coded
  if b.final then w.align else w

/-- Compresses bytes into a deflate stream. -/
def deflate (input : ByteArray) : ByteArray :=
  ((tokenBlocks input).foldl (BitWriter.block input) {}).bytes

end StrategyDeploy.Deflate

import StrategyDeploy.Deflate.Symbols

/-! Finding the tokens of a stream, as the default compression level does it. -/
namespace StrategyDeploy.Deflate

def byteAt (input : ByteArray) (i : Nat) : UInt8 :=
  if h : i < input.size then input[i] else 0

def hash3 (a b c : UInt8) : Nat := ((a.toNat * 1024) ^^^ (b.toNat * 32) ^^^ c.toNat) % 32768

/-- For each position followed by two more bytes, the last earlier position with the same
hash, modulo 65536, or zero when there is none. -/
def chainLinks (input : ByteArray) : Array Nat := Id.run do
  let mut head := Array.replicate 32768 0
  let mut links := Array.mkEmpty input.size
  for p in [0:input.size - 2] do
    let h := hash3 (byteAt input p) (byteAt input (p + 1)) (byteAt input (p + 2))
    links := links.push (head.getD h 0)
    head := head.set! h (p % 65536)
  return links

def equalRun (input : ByteArray) (a b limit : Nat) : Nat := Id.run do
  let mut k := 0
  for _ in [0:limit] do
    if byteAt input (a + k) == byteAt input (b + k) then k := k + 1 else break
  return k

/-- What a search looks at: the input, its chains, the position, how far back it may look and
the longest match it may take. -/
structure Probe where
  input : ByteArray
  links : Array Nat
  pos : Nat
  maxDist : Nat
  maxLen : Nat

/-- The outcome of following up to three links. -/
inductive Walk where
  | ended
  | missed (probe : Nat)
  | hit (probe dist : Nat)

/-- Follows links from `probe` until a candidate agrees with the position at the end of the
match to beat, at most `steps` of them. -/
def Probe.walk (p : Probe) (bestLen : Nat) : Nat → Nat → Walk
  | 0, probe => .missed probe
  | steps + 1, probe =>
    let v := p.links.getD probe 0
    let dist := (p.pos + 65536 - v) % 65536
    if v = 0 || p.maxDist < dist then .ended
    else
      let q := p.pos - dist
      if byteAt p.input (q + bestLen - 1) == byteAt p.input (p.pos + bestLen - 1) &&
          byteAt p.input (q + bestLen) == byteAt p.input (p.pos + bestLen) then .hit q dist
      else p.walk bestLen steps q

/-- Searches `rounds` rounds for a match longer than `best`, a (distance, length) pair. -/
def Probe.search (p : Probe) : Nat → Nat → Nat × Nat → Nat × Nat
  | 0, _, best => best
  | rounds + 1, probe, best =>
    match p.walk best.2 3 probe with
    | .ended => best
    | .missed q => p.search rounds q best
    | .hit q dist =>
      if dist = 0 then best
      else if byteAt p.input q != byteAt p.input p.pos ||
          byteAt p.input (q + 1) != byteAt p.input (p.pos + 1) then p.search rounds q best
      else
        let len := 2 + equalRun p.input (p.pos + 2) (q + 2) (p.maxLen - 2)
        if best.2 < len then
          let len := min p.maxLen len
          if len = p.maxLen then (dist, len) else p.search rounds q (dist, len)
        else p.search rounds q best

/-- The longest match at `pos` longer than `startLen`, as (distance, length); distance zero
when there is none. -/
def findMatch (input : ByteArray) (links : Array Nat) (pos maxDist lookahead startLen : Nat) :
    Nat × Nat :=
  let maxLen := min 258 lookahead
  let len := max startLen 1
  if maxLen ≤ len then (0, len)
  else
    let probes := if 32 ≤ len then 12 else 44
    (Probe.mk input links pos maxDist maxLen).search (probes - 1) pos (0, len)

/-- A block of tokens and the bytes they cover. -/
structure Block where
  tokens : Array Token
  start : Nat
  size : Nat
  storable : Bool
  final : Bool

/-- The state of the token search. -/
structure Parse where
  pos : Nat := 0
  window : Nat := 0
  savedLen : Nat := 0
  savedDist : Nat := 0
  savedLit : UInt8 := 0
  tokens : Array Token := #[]
  blockStart : Nat := 0
  blockBytes : Nat := 0
  bufferSize : Nat := 1
  blocks : Array Block := #[]

def Parse.record (st : Parse) (t : Token) (codeBytes : Nat) : Parse :=
  let tokens := st.tokens.push t
  let blockBytes := st.blockBytes + t.size
  let bufferSize := st.bufferSize + codeBytes + (if tokens.size % 8 = 0 then 1 else 0)
  { st with tokens := tokens, blockBytes := blockBytes, bufferSize := bufferSize }

def Parse.literal (st : Parse) (b : UInt8) : Parse := st.record (.literal b) 1

def Parse.copy (st : Parse) (len dist : Nat) : Parse := st.record (.copy len dist) 3

/-- Cuts a block when the buffer is nearly full or the tokens stopped paying. -/
def Parse.cut (st : Parse) : Parse :=
  if 65528 < st.bufferSize ||
      (31744 < st.blockBytes && st.blockBytes ≤ st.bufferSize * 115 / 128) then
    let block : Block := ⟨st.tokens, st.blockStart, st.blockBytes,
      decide (st.pos - st.blockStart ≤ st.window), false⟩
    let blockStart := st.blockStart + st.blockBytes
    { st with blocks := st.blocks.push block, tokens := #[], blockStart := blockStart,
              blockBytes := 0, bufferSize := 1 }
  else st

/-- One step of the search at the current position. -/
def Parse.step (input : ByteArray) (links : Array Nat) (st : Parse) : Parse :=
  let lookahead := min 258 (input.size - st.pos)
  let window := min (32768 - lookahead) st.window
  let startLen := if st.savedLen ≠ 0 then st.savedLen else 2
  let (dist, len) := findMatch input links st.pos window lookahead startLen
  let (dist, len) :=
    if (len = 3 && 8192 ≤ dist) || st.pos % 32768 = dist then (0, 0) else (dist, len)
  let cur := byteAt input st.pos
  let st := { st with window }
  let (st, move) :=
    if st.savedLen ≠ 0 then
      if st.savedLen < len then
        let st := st.literal st.savedLit
        if 128 ≤ len then ({ st.copy len dist with savedLen := 0 }, len)
        else ({ st with savedLit := cur, savedDist := dist, savedLen := len }, 1)
      else ({ st.copy st.savedLen st.savedDist with savedLen := 0 }, st.savedLen - 1)
    else if dist = 0 then (st.literal cur, 1)
    else if 128 ≤ len then (st.copy len dist, len)
    else ({ st with savedLit := cur, savedDist := dist, savedLen := len }, 1)
  ({ st with pos := st.pos + move, window := min (st.window + move) 32768 } : Parse).cut

def Parse.run (input : ByteArray) (links : Array Nat) : Nat → Parse → Parse
  | 0, st => st
  | fuel + 1, st => if st.pos < input.size then Parse.run input links fuel (st.step input links) else st

def tokenBlocks (input : ByteArray) : Array Block :=
  let st := Parse.run input (chainLinks input) (input.size + 1) {}
  st.blocks.push ⟨st.tokens, st.blockStart, st.blockBytes,
    decide (st.pos - st.blockStart ≤ st.window), true⟩

end StrategyDeploy.Deflate

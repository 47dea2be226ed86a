/-! Huffman codes for the deflate writer. -/
namespace StrategyDeploy.Deflate

/-- The optimal depths of a prefix code for counts sorted ascending, at least two of them,
in the same order. -/
def minimumRedundancy (sorted : Array Nat) : Array Nat := Id.run do
  let n := sorted.size
  let mut a := sorted
  a := a.set! 0 (a[0]! + a[1]!)
  let mut root := 0
  let mut leaf := 2
  for next in [1:n - 1] do
    if leaf ≥ n || a[root]! < a[leaf]! then
      a := a.set! next a[root]!
      a := a.set! root next
      root := root + 1
    else
      a := a.set! next a[leaf]!
      leaf := leaf + 1
    if leaf ≥ n || (root < next && a[root]! < a[leaf]!) then
      a := a.set! next (a[next]! + a[root]!)
      a := a.set! root next
      root := root + 1
    else
      a := a.set! next (a[next]! + a[leaf]!)
      leaf := leaf + 1
  a := a.set! (n - 2) 0
  for k in [0:n - 2] do
    let i := n - 3 - k
    a := a.set! i (a[a[i]!]! + 1)
  let mut avbl := 1
  let mut used := 0
  let mut depth := 0
  let mut top := n - 1
  let mut next := n
  for _ in [0:n + 1] do
    if avbl = 0 then break
    for _ in [0:n] do
      if top > 0 && a[top - 1]! == depth then
        used := used + 1
        top := top - 1
      else break
    for _ in [0:n] do
      if avbl > used && next > 0 then
        a := a.set! (next - 1) depth
        next := next - 1
        avbl := avbl - 1
      else break
    avbl := 2 * used
    depth := depth + 1
    used := 0
  return a

/-- Folds code counts per length back under `limit` until the code fits. -/
def limitLengths (numCodes : Array Nat) (used limit : Nat) : Array Nat := Id.run do
  if used ≤ 1 then return numCodes
  let mut nc := numCodes
  let excess := ((List.range (nc.size)).filter (limit < ·)).foldl (fun s i => s + nc[i]!) 0
  nc := nc.set! limit (nc[limit]! + excess)
  let total := (List.range limit).foldl (fun s k => s + nc[k + 1]! * Nat.pow 2 (limit - (k + 1))) 0
  for _ in [0:total - Nat.pow 2 limit] do
    nc := nc.set! limit (nc[limit]! - 1)
    for k in [0:limit - 1] do
      let i := limit - 1 - k
      if nc[i]! != 0 then
        nc := nc.set! i (nc[i]! - 1)
        nc := nc.set! (i + 1) (nc[i + 1]! + 2)
        break
  return nc

/-- Code lengths for symbol counts, none above `limit`; unused symbols get length zero. -/
def codeLengths (counts : Array Nat) (limit : Nat) : Array Nat := Id.run do
  let used := ((counts.toList.zipIdx.filter (·.1 != 0)).mergeSort fun a b => a.1 ≤ b.1).toArray
  let n := used.size
  let mut lengths := Array.replicate counts.size 0
  if n = 0 then return lengths
  let depths := if n = 1 then #[1] else minimumRedundancy (used.map (·.1))
  let mut numCodes := Array.replicate 33 0
  for d in depths do
    numCodes := numCodes.set! d (numCodes[d]! + 1)
  numCodes := limitLengths numCodes n limit
  let mut last := n
  for len in [1:limit + 1] do
    let first := last - numCodes[len]!
    for j in [first:last] do
      lengths := lengths.set! used[j]!.2 len
    last := first
  return lengths

def reverseBits (code width : Nat) : Nat :=
  (List.range width).foldl (fun acc i => acc * 2 + (code / Nat.pow 2 i) % 2) 0

/-- Canonical codes for code lengths, bit-reversed; `limit` is the longest length. -/
def canonicalCodes (lengths : Array Nat) (limit : Nat) : Array Nat := Id.run do
  let mut numCodes := Array.replicate (limit + 2) 0
  for l in lengths do
    if l ≤ limit then numCodes := numCodes.set! l (numCodes[l]! + 1)
  let mut nextCode := Array.replicate (limit + 2) 0
  let mut j := 0
  for i in [2:limit + 1] do
    j := (j + numCodes[i - 1]!) * 2
    nextCode := nextCode.set! i j
  let mut codes := Array.replicate lengths.size 0
  for s in [0:lengths.size] do
    let l := lengths[s]!
    if l != 0 then
      codes := codes.set! s (reverseBits nextCode[l]! l)
      nextCode := nextCode.set! l (nextCode[l]! + 1)
  return codes

def fixedLiteralLengths : Array Nat :=
  (Array.range 288).map fun s => if s < 144 then 8 else if s < 256 then 9 else if s < 280 then 7 else 8

def fixedDistanceLengths : Array Nat := Array.replicate 32 5

end StrategyDeploy.Deflate

/-! The symbols of the deflate format. -/
namespace StrategyDeploy.Deflate

/-- A token of the compressed stream. -/
inductive Token where
  | literal (b : UInt8)
  | copy (length distance : Nat)
  deriving Repr, DecidableEq, Inhabited

def Token.size : Token → Nat
  | .literal _ => 1
  | .copy length _ => length

def endOfBlock : Nat := 256

def lengthBases : Array Nat :=
  #[3, 4, 5, 6, 7, 8, 9, 10, 11, 13, 15, 17, 19, 23, 27, 31, 35, 43, 51, 59, 67, 83, 99, 115,
    131, 163, 195, 227, 258]

def lengthExtraBits : Array Nat :=
  #[0, 0, 0, 0, 0, 0, 0, 0, 1, 1, 1, 1, 2, 2, 2, 2, 3, 3, 3, 3, 4, 4, 4, 4, 5, 5, 5, 5, 0]

def distanceBases : Array Nat :=
  #[1, 2, 3, 4, 5, 7, 9, 13, 17, 25, 33, 49, 65, 97, 129, 193, 257, 385, 513, 769, 1025, 1537,
    2049, 3073, 4097, 6145, 8193, 12289, 16385, 24577]

def distanceExtraBits : Array Nat :=
  #[0, 0, 0, 0, 1, 1, 2, 2, 3, 3, 4, 4, 5, 5, 6, 6, 7, 7, 8, 8, 9, 9, 10, 10, 11, 11, 12, 12, 13,
    13]

def lastBaseAtMost (bases : Array Nat) (v : Nat) : Nat :=
  (bases.toList.zipIdx.foldl (fun acc (b, i) => if b ≤ v then i else acc) 0)

def lengthCode (length : Nat) : Nat × Nat × Nat :=
  let i := lastBaseAtMost lengthBases length
  (257 + i, lengthExtraBits.getD i 0, length - lengthBases.getD i 0)

def distanceCode (distance : Nat) : Nat × Nat × Nat :=
  let i := lastBaseAtMost distanceBases distance
  (i, distanceExtraBits.getD i 0, distance - distanceBases.getD i 0)

end StrategyDeploy.Deflate

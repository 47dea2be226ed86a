/-! Keccak-256 with the pre-standard padding. -/
namespace StrategyDeploy.Hash

def roundConstants : List UInt64 :=
  [0x0000000000000001, 0x0000000000008082, 0x800000000000808A, 0x8000000080008000,
   0x000000000000808B, 0x0000000080000001, 0x8000000080008081, 0x8000000000008009,
   0x000000000000008A, 0x0000000000000088, 0x0000000080008009, 0x000000008000000A,
   0x000000008000808B, 0x800000000000008B, 0x8000000000008089, 0x8000000000008003,
   0x8000000000008002, 0x8000000000000080, 0x000000000000800A, 0x800000008000000A,
   0x8000000080008081, 0x8000000000008080, 0x0000000080000001, 0x8000000080008008]

def rotations : Array UInt64 :=
  #[0, 1, 62, 28, 27, 36, 44, 6, 55, 20, 3, 10, 43, 25, 39, 41, 45, 15, 21, 8, 18, 2, 61, 56, 14]

def rotl (v n : UInt64) : UInt64 := (v <<< n) ||| (v >>> (64 - n))

def lane (s : Array UInt64) (x y : Nat) : UInt64 := s.getD (x % 5 + 5 * (y % 5)) 0

/-- One round: theta, rho and pi, chi, iota. -/
def round (s : Array UInt64) (rc : UInt64) : Array UInt64 :=
  let c := (List.range 5).toArray.map fun x =>
    lane s x 0 ^^^ lane s x 1 ^^^ lane s x 2 ^^^ lane s x 3 ^^^ lane s x 4
  let d := (List.range 5).toArray.map fun x =>
    c.getD ((x + 4) % 5) 0 ^^^ rotl (c.getD ((x + 1) % 5) 0) 1
  let theta := (List.range 25).toArray.map fun i => s.getD i 0 ^^^ d.getD (i % 5) 0
  -- pi sends the lane at (x, y) to (y, 2x + 3y), rotated by rho
  let piRho := (List.range 25).toArray.map fun i =>
    let x := i % 5
    let y := i / 5
    let x' := (x + 3 * y) % 5
    let y' := x
    rotl (lane theta x' y') (rotations.getD (x' + 5 * y') 0)
  let chi := (List.range 25).toArray.map fun i =>
    let x := i % 5
    let y := i / 5
    lane piRho x y ^^^ ((~~~ lane piRho (x + 1) y) &&& lane piRho (x + 2) y)
  chi.set! 0 (chi.getD 0 0 ^^^ rc)

def permute (s : Array UInt64) : Array UInt64 := roundConstants.foldl round s

def laneOfBytes (bs : List UInt8) : UInt64 :=
  bs.foldr (fun b acc => (acc <<< 8) ||| b.toUInt64) 0

def bytesOfLane (v : UInt64) : List UInt8 :=
  (List.range 8).map fun i => (v >>> (8 * i).toUInt64).toUInt8

def rate : Nat := 136

def absorbBlock (s : Array UInt64) (block : List UInt8) : Array UInt64 :=
  let lanes := (List.range 17).map fun i => laneOfBytes ((block.drop (8 * i)).take 8)
  permute ((List.range 25).toArray.map fun i => s.getD i 0 ^^^ lanes.getD i 0)

def absorb (s : Array UInt64) (input : List UInt8) : Nat → Array UInt64
  | 0 => s
  | count + 1 => absorb (absorbBlock s (input.take rate)) (input.drop rate) count

def pad (input : List UInt8) : List UInt8 :=
  let fill := rate - input.length % rate
  if fill = 1 then input ++ [0x81]
  else input ++ [0x01] ++ List.replicate (fill - 2) 0 ++ [0x80]

/-- The Keccak-256 digest of bytes. -/
def keccak256 (input : List UInt8) : List UInt8 :=
  let padded := pad input
  let state := absorb (Array.replicate 25 0) padded (padded.length / rate)
  (List.range 4).flatMap fun i => bytesOfLane (state.getD i 0)

end StrategyDeploy.Hash

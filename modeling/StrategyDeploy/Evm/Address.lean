import StrategyDeploy.Bytes.Fixed
import StrategyDeploy.Hash.Keccak

/-! Account addresses and their mixed-case checksum form. -/
namespace StrategyDeploy.Evm

open StrategyDeploy.Bytes StrategyDeploy.Hash

/-- A twenty-byte account address. -/
abbrev Address := Fixed 20

def Address.zero : Address := default

def Address.parse? (s : String) : Option Address := Fixed.parse? s

def Address.lowerDigits (a : Address) : List Char := a.bytes.flatMap byteChars

def nibbles (bs : List UInt8) : List Nat :=
  bs.flatMap fun b => [b.toNat / 16, b.toNat % 16]

def checksumChar (c : Char) (nibble : Nat) : Char :=
  if 8 ≤ nibble then c.toUpper else c

/-- The checksummed text of an address, with a `0x` prefix. -/
def Address.checksummed (a : Address) : String :=
  let digits := a.lowerDigits
  let hash := nibbles (keccak256 (digits.map fun c => c.toNat.toUInt8))
  "0x" ++ String.ofList (List.zipWith checksumChar digits hash)

def Address.lower (a : Address) : String := a.toHex

def Address.toNat (a : Address) : Nat := beValue a.bytes

end StrategyDeploy.Evm

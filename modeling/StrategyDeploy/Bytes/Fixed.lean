import StrategyDeploy.Bytes.Hex

/-! Fixed-size byte strings: 20-byte addresses, 32-byte hashes and order salts. -/
namespace StrategyDeploy.Bytes

/-- Exactly `n` bytes. -/
structure Fixed (n : Nat) where
  bytes : List UInt8
  length_eq : bytes.length = n
  deriving DecidableEq, Repr

instance (n : Nat) : Inhabited (Fixed n) := ⟨⟨List.replicate n 0, List.length_replicate⟩⟩

def Fixed.ofBytes? {n : Nat} (bs : List UInt8) : Option (Fixed n) :=
  if h : bs.length = n then some ⟨bs, h⟩ else none

def Fixed.parse? {n : Nat} (s : String) : Option (Fixed n) :=
  (ofHex? s).bind Fixed.ofBytes?

def Fixed.toHex {n : Nat} (b : Fixed n) : String := toPrefixedHex b.bytes

/-- The 32-byte values: hashes, nonces and secrets. -/
abbrev Bytes32 := Fixed 32

theorem Fixed.ofBytes?_bytes {n : Nat} (b : Fixed n) : Fixed.ofBytes? (n := n) b.bytes = some b := by
  simp [Fixed.ofBytes?, b.length_eq]

end StrategyDeploy.Bytes

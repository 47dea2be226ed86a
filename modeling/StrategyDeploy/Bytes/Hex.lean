/-! Hexadecimal text of bytes. -/
namespace StrategyDeploy.Bytes

def nibbleChar (n : Nat) : Char :=
  if n < 10 then Char.ofNat ('0'.toNat + n) else Char.ofNat ('a'.toNat + n - 10)

def nibbleValue? (c : Char) : Option Nat :=
  if '0' ≤ c && c ≤ '9' then some (c.toNat - '0'.toNat)
  else if 'a' ≤ c && c ≤ 'f' then some (c.toNat - 'a'.toNat + 10)
  else if 'A' ≤ c && c ≤ 'F' then some (c.toNat - 'A'.toNat + 10)
  else none

def byteChars (b : UInt8) : List Char :=
  [nibbleChar (b.toNat / 16), nibbleChar (b.toNat % 16)]

def toHex (bs : List UInt8) : String :=
  String.ofList (bs.flatMap byteChars)

def toPrefixedHex (bs : List UInt8) : String :=
  "0x" ++ toHex bs

/-- Bytes of pairs of hexadecimal digits. -/
def digitPairs? : List Char → Option (List UInt8)
  | [] => some []
  | [_] => none
  | hi :: lo :: rest => do
    let h ← nibbleValue? hi
    let l ← nibbleValue? lo
    let tail ← digitPairs? rest
    pure ((16 * h + l).toUInt8 :: tail)

def ofHex? (s : String) : Option (List UInt8) :=
  match s.toList with
  | '0' :: 'x' :: rest | '0' :: 'X' :: rest => digitPairs? rest
  | cs => digitPairs? cs

def beBytes (width n : Nat) : List UInt8 :=
  (List.range width).reverse.map fun i => (n / Nat.pow 256 i % 256).toUInt8

def beValue (bs : List UInt8) : Nat :=
  bs.foldl (fun acc b => 256 * acc + b.toNat) 0

end StrategyDeploy.Bytes

import StrategyDeploy.Evm.Address

/-! The contract ABI encoding of call arguments. -/
namespace StrategyDeploy.Evm

open StrategyDeploy.Bytes

/-- An ABI value. -/
inductive AbiValue where
  | address (a : Address)
  | uint (n : Nat)
  | bool (b : Bool)
  | word (b : Fixed 32)
  | bytes (data : List UInt8)
  | array (items : List AbiValue)
  | tuple (items : List AbiValue)
  deriving Repr

def numberWord (n : Nat) : List UInt8 := beBytes 32 n

def padToWords (data : List UInt8) : List UInt8 :=
  data ++ List.replicate ((32 - data.length % 32) % 32) 0

mutual

def AbiValue.isDynamic : AbiValue → Bool
  | .bytes _ => true
  | .array _ => true
  | .tuple items => AbiValue.anyDynamic items
  | _ => false

def AbiValue.anyDynamic : List AbiValue → Bool
  | [] => false
  | v :: vs => v.isDynamic || AbiValue.anyDynamic vs

end

mutual

/-- The encoding of a value. -/
def AbiValue.encode : AbiValue → List UInt8
  | .address a => numberWord a.toNat
  | .uint n => numberWord n
  | .bool b => numberWord (if b then 1 else 0)
  | .word b => b.bytes
  | .bytes data => numberWord data.length ++ padToWords data
  | .array items => numberWord items.length ++ assemble (AbiValue.encodeAll items)
  | .tuple items => assemble (AbiValue.encodeAll items)

def AbiValue.encodeAll : List AbiValue → List (Bool × List UInt8)
  | [] => []
  | v :: vs => (v.isDynamic, v.encode) :: AbiValue.encodeAll vs

/-- Heads then tails: dynamic parts are replaced in the heads by their offsets. -/
def assemble (parts : List (Bool × List UInt8)) : List UInt8 :=
  let headSize := (parts.map fun (dyn, enc) => if dyn then 32 else enc.length).foldr (· + ·) 0
  let step := fun (acc : List UInt8 × List UInt8) (part : Bool × List UInt8) =>
    let (heads, tails) := acc
    if part.1 then (heads ++ numberWord (headSize + tails.length), tails ++ part.2)
    else (heads ++ part.2, tails)
  let (heads, tails) := parts.foldl step ([], [])
  heads ++ tails

end

/-- The call data of a function call. -/
def callData (selector : List UInt8) (args : List AbiValue) : List UInt8 :=
  selector ++ (AbiValue.tuple args).encode

def decodeAddressReturn (data : List UInt8) : Option Address :=
  if data.length = 32 && (data.take 12).all (· == 0) then Fixed.ofBytes? (data.drop 12) else none

def decodeUintReturn (data : List UInt8) : Option Nat :=
  if data.length = 32 then some (beValue data) else none

def decodeBytesReturn (data : List UInt8) : Option (List UInt8) :=
  let len := beValue ((data.drop 32).take 32)
  let value := (data.drop 64).take len
  if (AbiValue.tuple [.bytes value]).encode == data then some value else none

end StrategyDeploy.Evm

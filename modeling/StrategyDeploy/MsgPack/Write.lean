import StrategyDeploy.Bytes.Hex

/-! Writing MessagePack in its most compact form. -/
namespace StrategyDeploy.MsgPack

open StrategyDeploy.Bytes

def strHeader (n : Nat) : List UInt8 :=
  if n < 32 then [(0xa0 + n).toUInt8]
  else if n < 256 then [0xd9, n.toUInt8]
  else if n < 65536 then 0xda :: beBytes 2 n
  else 0xdb :: beBytes 4 n

def binHeader (n : Nat) : List UInt8 :=
  if n < 256 then [0xc4, n.toUInt8]
  else if n < 65536 then 0xc5 :: beBytes 2 n
  else 0xc6 :: beBytes 4 n

def arrayHeader (n : Nat) : List UInt8 :=
  if n < 16 then [(0x90 + n).toUInt8]
  else if n < 65536 then 0xdc :: beBytes 2 n
  else 0xdd :: beBytes 4 n

def writeStr (s : String) : List UInt8 := strHeader s.utf8ByteSize ++ s.toUTF8.toList

def writeBin (bs : List UInt8) : List UInt8 := binHeader bs.length ++ bs

def writeArray (items : List (List UInt8)) : List UInt8 := arrayHeader items.length ++ items.flatten

end StrategyDeploy.MsgPack

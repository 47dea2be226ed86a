import StrategyDeploy.Bytes.Hex

/-! The meta document stored with an order: a magic and a CBOR map of the source. -/
namespace StrategyDeploy.Meta

open StrategyDeploy.Bytes

def documentMagic : Nat := 0xff0a89c674ee7874

def sourceMagic : Nat := 0xff13109e41336ff2

def contentType : String := "application/octet-stream"

/-- The eight CBOR major types. -/
inductive Major where
  | unsigned
  | negative
  | bytes
  | text
  | array
  | map
  | tag
  | simple

/-- The number of a major type, the top three bits of a head. -/
def Major.code : Major → Nat
  | .unsigned => 0
  | .negative => 1
  | .bytes => 2
  | .text => 3
  | .array => 4
  | .map => 5
  | .tag => 6
  | .simple => 7

def head (major : Major) (value : Nat) : List UInt8 :=
  let top := major.code * 32
  if value < 24 then [(top + value).toUInt8]
  else if value < Nat.pow 2 8 then (top + 24).toUInt8 :: beBytes 1 value
  else if value < Nat.pow 2 16 then (top + 25).toUInt8 :: beBytes 2 value
  else if value < Nat.pow 2 32 then (top + 26).toUInt8 :: beBytes 4 value
  else (top + 27).toUInt8 :: beBytes 8 value

/-- The meta document of an expression source. -/
def sourceMeta (source : String) : List UInt8 :=
  let payload := source.toUTF8.toList
  let kind := contentType.toUTF8.toList
  beBytes 8 documentMagic ++ head .map 3 ++
    head .unsigned 0 ++ head .bytes payload.length ++ payload ++
    head .unsigned 1 ++ head .unsigned sourceMagic ++
    head .unsigned 2 ++ head .text kind.length ++ kind

end StrategyDeploy.Meta

import StrategyDeploy.Bytes.Fixed

/-! Reading MessagePack leniently, as a typed reader that asks for each value's type does. -/
namespace StrategyDeploy.MsgPack

open StrategyDeploy.Bytes

/-- What a marker announces, with the length of the body that follows when there is one. -/
inductive Head where
  | nil
  | bool (b : Bool)
  | uint (n : Nat)
  | int (n : Int)
  | float
  | str (len : Nat)
  | bin (len : Nat)
  | array (len : Nat)
  | map (len : Nat)
  | ext (len : Nat)
  | reserved
  deriving Repr, DecidableEq

/-- A decoder of values of one type: from the bytes and a position, the value and the position
after it, or `none` when the bytes do not hold one. -/
abbrev Decode (α : Type) := ByteArray → Nat → Option (α × Nat)

def field (data : ByteArray) (pos width : Nat) : Option Nat :=
  if data.size < pos + width then none
  else some ((List.range width).foldl (fun acc k => 256 * acc + (data.get! (pos + k)).toNat) 0)

def signed (width n : Nat) : Int :=
  if n < Nat.pow 2 (8 * width - 1) then n else (n : Int) - Int.pow 2 (8 * width)

/-- Reads a marker and what belongs to it up to the body: the value of a number, the length of a
text, byte string, container or extension. -/
def readHead : Decode Head := fun data pos => do
  let m := (← field data pos 1)
  let pos := pos + 1
  let sized (width : Nat) (mk : Nat → Head) : Option (Head × Nat) :=
    (field data pos width).map fun n => (mk n, pos + width)
  if m < 0x80 then some (.uint m, pos)
  else if m < 0x90 then some (.map (m - 0x80), pos)
  else if m < 0xa0 then some (.array (m - 0x90), pos)
  else if m < 0xc0 then some (.str (m - 0xa0), pos)
  else if m = 0xc0 then some (.nil, pos)
  else if m = 0xc1 then some (.reserved, pos)
  else if m = 0xc2 then some (.bool false, pos)
  else if m = 0xc3 then some (.bool true, pos)
  else if m = 0xc4 then sized 1 .bin
  else if m = 0xc5 then sized 2 .bin
  else if m = 0xc6 then sized 4 .bin
  else if m = 0xc7 then sized 1 .ext
  else if m = 0xc8 then sized 2 .ext
  else if m = 0xc9 then sized 4 .ext
  else if m = 0xca then sized 4 fun _ => .float
  else if m = 0xcb then sized 8 fun _ => .float
  else if m = 0xcc then sized 1 .uint
  else if m = 0xcd then sized 2 .uint
  else if m = 0xce then sized 4 .uint
  else if m = 0xcf then sized 8 .uint
  else if m = 0xd0 then sized 1 fun n => .int (signed 1 n)
  else if m = 0xd1 then sized 2 fun n => .int (signed 2 n)
  else if m = 0xd2 then sized 4 fun n => .int (signed 4 n)
  else if m = 0xd3 then sized 8 fun n => .int (signed 8 n)
  else if m = 0xd4 then some (.ext 1, pos)
  else if m = 0xd5 then some (.ext 2, pos)
  else if m = 0xd6 then some (.ext 4, pos)
  else if m = 0xd7 then some (.ext 8, pos)
  else if m = 0xd8 then some (.ext 16, pos)
  else if m = 0xd9 then sized 1 .str
  else if m = 0xda then sized 2 .str
  else if m = 0xdb then sized 4 .str
  else if m = 0xdc then sized 2 .array
  else if m = 0xdd then sized 4 .array
  else if m = 0xde then sized 2 .map
  else if m = 0xdf then sized 4 .map
  else some (.int ((m : Int) - 256), pos)

def slice (data : ByteArray) (pos len : Nat) : Option ByteArray :=
  if data.size < pos + len then none else some (data.extract pos (pos + len))

def maxDepth : Nat := 1024

/-- Skips `count` values inside `level` open containers; `fuel` bounds the steps. -/
def skipValues (data : ByteArray) : Nat → Nat → Nat → Nat → Option Nat
  | 0, _, _, _ => none
  | _ + 1, _, 0, pos => some pos
  | fuel + 1, level, count + 1, pos => do
    let (h, pos) ← readHead data pos
    let pos ← match h with
      | .str n | .bin n => if data.size < pos + n then none else some (pos + n)
      | .ext n => if data.size < pos + 1 + n then none else some (pos + 1 + n)
      | .array n => if maxDepth ≤ level + 1 then none else skipValues data fuel (level + 1) n pos
      | .map n =>
        if maxDepth ≤ level + 1 then none else skipValues data fuel (level + 1) (2 * n) pos
      | .reserved => none
      | _ => some pos
    skipValues data fuel level count pos

/-- Skips one value inside `level` open containers. -/
def skipValue (level : Nat) : Decode Unit := fun data pos =>
  (skipValues data (2 * data.size + 2) level 1 pos).map ((), ·)

def Head.byte? : Head → Option UInt8
  | .uint n => if n < 256 then some n.toUInt8 else none
  | .int n => if 0 ≤ n ∧ n < 256 then some n.toNat.toUInt8 else none
  | _ => none

def readByte : Decode UInt8 := fun data pos => do
  let (h, pos) ← readHead data pos
  let b ← h.byte?
  some (b, pos)

def readItems {α : Type} (item : Decode α) (data : ByteArray) : Nat → Nat → List α →
    Option (List α × Nat)
  | 0, pos, acc => some (acc.reverse, pos)
  | count + 1, pos, acc => do
    let (x, pos) ← item data pos
    readItems item data count pos (x :: acc)

def skipNonByte (data : ByteArray) (pos : Nat) : Option Nat :=
  match readHead data pos with
  | none => some data.size
  | some (h, next) => if h.byte?.isSome then none else some next

/-- Reads a text from a text or a byte string. -/
def readText : Decode String := fun data pos => do
  let (h, pos) ← readHead data pos
  match h with
  | .str n | .bin n => do
    let bytes ← slice data pos n
    let s ← String.fromUTF8? bytes
    some (s, pos + n)
  | _ => none

/-- Reads exactly `n` bytes from a byte string, hexadecimal text or array of bytes. -/
def readFixed (n : Nat) : Decode (Fixed n) := fun data pos => do
  let (h, pos) ← readHead data pos
  match h with
  | .bin len => do
    let bytes ← slice data pos len
    let f ← Fixed.ofBytes? bytes.toList
    some (f, pos + len)
  | .str len => do
    let bytes ← slice data pos len
    let f ← match String.fromUTF8? bytes with
      | some s => Fixed.parse? s
      | none => Fixed.ofBytes? bytes.toList
    some (f, pos + len)
  | .array len =>
    if len < n || n + 1 < len then none
    else do
      let (bytes, pos) ← readItems readByte data n pos []
      let f ← Fixed.ofBytes? bytes
      if len = n then some (f, pos) else some (f, ← skipNonByte data pos)
  | _ => none

def readArrayOf (n : Nat) : Decode Unit := fun data pos => do
  let (h, pos) ← readHead data pos
  if h = .array n then some ((), pos) else none

def readList {α : Type} (item : Decode α) : Decode (List α) := fun data pos => do
  let (h, pos) ← readHead data pos
  match h with
  | .array n => readItems item data n pos []
  | _ => none

end StrategyDeploy.MsgPack

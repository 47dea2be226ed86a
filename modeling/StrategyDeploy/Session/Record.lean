import StrategyDeploy.Session.Store
import StrategyDeploy.MsgPack.Write
import StrategyDeploy.MsgPack.Read

/-! The record of a session inside a blob, as MessagePack. -/
namespace StrategyDeploy.Session

open StrategyDeploy.Bytes StrategyDeploy.Evm StrategyDeploy.MsgPack

/-- A session as a blob records it. -/
structure Record where
  fingerprint : Bytes32
  fields : List (String × String)
  deposits : List (String × Address × String)
  deriving Repr, DecidableEq

def Record.ofState (fingerprint : Bytes32) (s : State) : Record :=
  ⟨fingerprint, s.fields.map fun f => (f.binding, f.value),
    s.deposits.map fun d => (d.token, d.address, d.amount)⟩

def Record.state (r : Record) : State :=
  ⟨r.fields.map fun (b, v) => ⟨b, v⟩, r.deposits.map fun (t, a, m) => ⟨t, a, m⟩⟩

/-- The MessagePack bytes of a record. -/
def Record.encode (r : Record) : List UInt8 :=
  writeArray [writeBin r.fingerprint.bytes,
    writeArray (r.fields.map fun (b, v) => writeArray [writeStr b, writeStr v]),
    writeArray (r.deposits.map fun (t, a, m) => writeArray [writeStr t, writeBin a.bytes, writeStr m])]

def readFieldPair : Decode (String × String) := fun data pos => do
  let ((), pos) ← readArrayOf 2 data pos
  let (b, pos) ← readText data pos
  let (v, pos) ← readText data pos
  some ((b, v), pos)

def readDepositTriple : Decode (String × Address × String) := fun data pos => do
  let ((), pos) ← readArrayOf 3 data pos
  let (t, pos) ← readText data pos
  let (a, pos) ← readFixed 20 data pos
  let (m, pos) ← readText data pos
  some ((t, a, m), pos)

/-- A key of a record written as a map. -/
inductive RecordKey where
  | fingerprint
  | fields
  | deposits
  | other

def RecordKey.ofName (name : ByteArray) : RecordKey :=
  if name.toList = "fingerprint".toUTF8.toList then .fingerprint
  else if name.toList = "fields".toUTF8.toList then .fields
  else if name.toList = "deposits".toUTF8.toList then .deposits
  else .other

/-- Reads a key: a name as text or bytes, or an unsigned position. -/
def readRecordKey : Decode RecordKey := fun data pos => do
  let (h, pos) ← readHead data pos
  match h with
  | .str n | .bin n => do
    let name ← slice data pos n
    some (RecordKey.ofName name, pos + n)
  | .uint 0 => some (.fingerprint, pos)
  | .uint 1 => some (.fields, pos)
  | .uint 2 => some (.deposits, pos)
  | .uint _ => some (.other, pos)
  | _ => none

/-- The parts of a record read from a map so far. -/
structure RecordParts where
  fingerprint : Option Bytes32 := none
  fields : Option (List (String × String)) := none
  deposits : Option (List (String × Address × String)) := none

/-- Reads `count` entries of a record written as a map. -/
def readRecordEntries (data : ByteArray) : Nat → Nat → RecordParts → Option (RecordParts × Nat)
  | 0, pos, parts => some (parts, pos)
  | count + 1, pos, parts => do
    let (key, pos) ← readRecordKey data pos
    let (parts, pos) ← match key with
      | .fingerprint =>
        if parts.fingerprint.isSome then none
        else (readFixed 32 data pos).map fun (f, pos) => ({ parts with fingerprint := some f }, pos)
      | .fields =>
        if parts.fields.isSome then none
        else (readList readFieldPair data pos).map fun (fs, pos) => ({ parts with fields := some fs }, pos)
      | .deposits =>
        if parts.deposits.isSome then none
        else (readList readDepositTriple data pos).map fun (ds, pos) =>
          ({ parts with deposits := some ds }, pos)
      | .other => (skipValue 1 data pos).map fun ((), pos) => (parts, pos)
    readRecordEntries data count pos parts

/-- Reads a record from the start of MessagePack bytes; bytes after it are ignored. -/
def Record.decode? (data : ByteArray) : Option Record := do
  let (h, pos) ← readHead data 0
  match h with
  | .array 3 => do
    let (fingerprint, pos) ← readFixed 32 data pos
    let (fields, pos) ← readList readFieldPair data pos
    let (deposits, _) ← readList readDepositTriple data pos
    some ⟨fingerprint, fields, deposits⟩
  | .map n => do
    let (parts, _) ← readRecordEntries data n pos {}
    some ⟨← parts.fingerprint, ← parts.fields, ← parts.deposits⟩
  | _ => none

end StrategyDeploy.Session

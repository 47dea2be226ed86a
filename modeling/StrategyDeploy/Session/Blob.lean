import StrategyDeploy.Session.Record
import StrategyDeploy.Gzip.Member
import StrategyDeploy.Bytes.Base64
import StrategyDeploy.Text.Blank

/-! Blobs: a session carried as gzipped text in URL-safe base64. -/
namespace StrategyDeploy.Session

open StrategyDeploy.Bytes StrategyDeploy.Deployment

/-- Why a blob could not be restored. -/
inductive CodecError where
  | base64
  | decompress
  | tooLarge
  | empty
  | versionUnsupported (tag : UInt8)
  | malformed
  | configMismatch
  deriving Repr, DecidableEq

def recordLimit : Nat := 1048576

def recordVersion : UInt8 := 1

/-- The report of a codec error. -/
def CodecError.message : CodecError → String
  | .base64 => "Invalid base64 state"
  | .decompress => "Failed to decompress state"
  | .tooLarge => s!"Malformed state record: record exceeds {recordLimit} bytes"
  | .empty => "State is empty"
  | .versionUnsupported tag => s!"Unsupported state version: {tag}"
  | .malformed => "Malformed state record"
  | .configMismatch => "Deserialized config mismatch"

def Store.record (st : Store) : Record := Record.ofState st.config.fingerprint st.state

/-- The blob of a session, its gzip stream written by `z`. -/
def Store.serializeWith (z : Gzip.Codec) (st : Store) : String :=
  encodeBase64 (Gzip.compressWith z ⟨(recordVersion :: st.record.encode).toArray⟩)

def Store.serialize (st : Store) : String := st.serializeWith Gzip.codec

def orFail {α : Type} (e : CodecError) : Option α → Except CodecError α
  | some a => .ok a
  | none => .error e

/-- Restores a session of the deployment `config` from a blob, its gzip stream read by `z`. -/
def Store.deserializeWith (z : Gzip.Codec) (config : Config) (blob : String) :
    Except CodecError Store := do
  let compressed ← orFail .base64 (decodeBase64? (Text.trim blob))
  let raw ← match Gzip.decompressWith z compressed recordLimit with
    | none => throw .decompress
    | some .tooLarge => throw .tooLarge
    | some (.data raw) => pure raw
  let tag ← orFail .empty raw[0]?
  if tag ≠ recordVersion then throw (.versionUnsupported tag)
  let record ← orFail .malformed (Record.decode? (raw.extract 1 raw.size))
  if record.fingerprint ≠ config.fingerprint then throw .configMismatch
  return ⟨config, record.state⟩

/-- Restores a session of the deployment `config` from a blob. -/
def Store.deserialize (config : Config) (blob : String) : Except CodecError Store :=
  Store.deserializeWith Gzip.codec config blob

end StrategyDeploy.Session

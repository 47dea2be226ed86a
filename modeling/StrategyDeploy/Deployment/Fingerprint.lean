import StrategyDeploy.Deployment.Basic

/-! The fingerprint of a deployment: the Keccak-256 hash of a framed record. -/
namespace StrategyDeploy.Deployment

open StrategyDeploy.Bytes StrategyDeploy.Hash

def fingerprintDomain : String := "obgui/deployment-fingerprint/v1"

def countBytes (n : Nat) : List UInt8 := beBytes 4 n

def framed (s : String) : List UInt8 := countBytes s.utf8ByteSize ++ s.toUTF8.toList

def Preset.record (p : Preset) : List UInt8 :=
  (match p.name with
    | some name => 1 :: framed name
    | none => [0]) ++ framed p.value

def FieldSpec.record (f : FieldSpec) : List UInt8 :=
  framed f.binding ++ countBytes f.presets.length ++ f.presets.flatMap Preset.record

def DepositSpec.record (tokens : List TokenInfo) (d : DepositSpec) : List UInt8 :=
  framed d.token ++
    (match tokens.find? (·.key == d.token) with
      | some t => t.address.bytes ++ [t.decimals.toUInt8]
      | none => []) ++
    countBytes d.presets.length ++ d.presets.flatMap framed

/-- The fingerprinted record of a deployment. -/
def fingerprintRecord (deployment : String) (fields : List FieldSpec) (deposits : List DepositSpec)
    (tokens : List TokenInfo) : List UInt8 :=
  framed fingerprintDomain ++ framed deployment ++
    countBytes fields.length ++ fields.flatMap FieldSpec.record ++
    countBytes deposits.length ++ deposits.flatMap (DepositSpec.record tokens)

/-- The fingerprint of a deployment. -/
def fingerprintOf (deployment : String) (fields : List FieldSpec) (deposits : List DepositSpec)
    (tokens : List TokenInfo) : Bytes32 :=
  let digest := keccak256 (fingerprintRecord deployment fields deposits tokens)
  match Fixed.ofBytes? digest with
  | some h => h
  | none => default

end StrategyDeploy.Deployment

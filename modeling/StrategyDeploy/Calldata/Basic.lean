import StrategyDeploy.Amount.Units
import StrategyDeploy.Expression.Compose
import StrategyDeploy.Deployment.Basic
import StrategyDeploy.Reader.Basic
import StrategyDeploy.Evm.Abi
import StrategyDeploy.Hash.Keccak

/-! What compiling a session produces and why it can fail. -/
namespace StrategyDeploy

/-- A call ready to be sent. -/
structure Calldata where
  target : Evm.Address
  label : String
  data : List UInt8
  deriving Repr

end StrategyDeploy

namespace StrategyDeploy.Calldata

open StrategyDeploy.Evm StrategyDeploy.Bytes StrategyDeploy.Hash StrategyDeploy.Reader
open StrategyDeploy.Deployment StrategyDeploy.Amount StrategyDeploy.Expression

/-- The nonce and secret that make an order unique. -/
structure Salt where
  nonce : Bytes32
  secret : Bytes32

def selector (signature : String) : List UInt8 :=
  (keccak256 signature.toUTF8.toList).take 4

/-- A read that turns an expression into something to deploy. -/
inductive ResolveStep where
  | interpreter
  | store
  | parser
  | bytecode
  deriving Repr, DecidableEq

def ResolveStep.name : ResolveStep → String
  | .interpreter => "interpreter"
  | .store => "store"
  | .parser => "parser"
  | .bytecode => "bytecode"

/-- Why calldata could not be compiled. -/
inductive CalldataError where
  | binding (e : BindingError)
  | encoding (e : EncodingError)
  | compose (e : ComposeError)
  | vaultIdMissing (token : String)
  | allowanceQueryFailed (token : Address) (source : RpcError)
  | resolution (step : ResolveStep) (target : Address) (source : RpcError)
  | stepOutOfOrder (step : ResolveStep)
  | belowMinimum (id min value : String)
  | notNumeric (id value : String)
  deriving Repr

/-- The report of a compile error; wrapped causes speak for themselves. -/
def CalldataError.message (abiReport : List UInt8 → String) : CalldataError → String
  | .binding e => e.message
  | .encoding e => e.message
  | .compose e => e.message
  | .vaultIdMissing t => s!"Vault id not found for token: {t}"
  | .allowanceQueryFailed token source =>
    let token := token.checksummed
    let source := source.message abiReport
    s!"Allowance query failed for token {token}: {source}"
  | .resolution step target source =>
    let step := step.name
    let target := target.checksummed
    let source := source.message abiReport
    s!"{step} resolution failed against {target}: {source}"
  | .stepOutOfOrder step =>
    let step := step.name
    s!"{step} resolution ran before its inputs were resolved"
  | .belowMinimum id min value => s!"{id} is below its minimum {min}: {value}"
  | .notNumeric id value => s!"{id} is not a number: {value}"

/-- A compilation that reads contracts and may fail. -/
abbrev Compile := ExceptT CalldataError Reads

def lift {α : Type} : Except CalldataError α → Compile α
  | .ok a => pure a
  | .error e => throw e

end StrategyDeploy.Calldata

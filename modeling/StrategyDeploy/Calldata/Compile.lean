import StrategyDeploy.Calldata.Minimum
import StrategyDeploy.Calldata.Resolve
import StrategyDeploy.Calldata.Allowance
import StrategyDeploy.Meta.Document

/-! Compiling a session into the transactions that deploy its order. -/
namespace StrategyDeploy.Calldata

open StrategyDeploy.Evm StrategyDeploy.Deployment

def Evaluable.toAbi (e : Evaluable) : AbiValue :=
  .tuple [.address e.interpreter, .address e.store, .bytes e.bytecode]

def vaultAbi (v : Vault) : AbiValue :=
  .tuple [.address v.token.address, .uint v.token.decimals, .uint v.vaultId]

def addOrderSignature : String :=
  "addOrder2(((address,address,bytes),(address,uint8,uint256)[],(address,uint8,uint256)[],bytes32,bytes32,bytes),((address,address,bytes),(address,uint256[],bytes)[])[])"

def depositSignature : String :=
  "deposit2(address,uint256,uint256,((address,address,bytes),(address,uint256[],bytes)[])[])"

def aggregate3Signature : String := "aggregate3((address,bool,bytes)[])"

def composed (r : Except Expression.ComposeError String) : Compile String :=
  match r with
  | .ok s => pure s
  | .error e => throw (.compose e)

end StrategyDeploy.Calldata

namespace StrategyDeploy.Deployment

open StrategyDeploy.Evm StrategyDeploy.Reader StrategyDeploy.Calldata StrategyDeploy.Session
open StrategyDeploy.Amount StrategyDeploy.Expression StrategyDeploy.Meta

def Config.tokenOf (c : Config) (d : Session.Deposit) : Except CalldataError TokenInfo :=
  (c.depositToken d.token).mapError .binding

def Config.amountOf (c : Config) (d : Session.Deposit) : Except CalldataError (TokenInfo × Nat) := do
  let token ← c.tokenOf d
  let amount ← (parseUnits d.amount token.decimals).mapError .encoding
  return (token, amount)

def Config.approvalFor (c : Config) (allowances : List Allowance) (d : Session.Deposit) :
    Except CalldataError (Option Calldata) := do
  let (token, amount) ← c.amountOf d
  if amount ≤ allowanceIn allowances token.address then return none
  let data := callData (selector "approve(address,uint256)") [.address c.orderbook, .uint amount]
  return some ⟨token.address, s!"approve {d.token}", data⟩

/-- The approvals still needed, in deposit order. -/
def Config.approvals (c : Config) (s : State) (allowances : List Allowance) :
    Except CalldataError (List Calldata) := do
  c.checkMinimums s
  let needed ← s.deposits.mapM (c.approvalFor allowances)
  return needed.filterMap id

/-- The allowances the owner has given the orderbook for each deposit's token. -/
def Config.readDepositAllowances (c : Config) (r : Reader) (s : State) (owner : Address) :
    Compile (List Allowance) := do
  let tokens ← lift (s.deposits.mapM fun d => (c.tokenOf d).map (·.address))
  readAllowances r c.orderbook owner tokens

/-- Reads the allowances, then compiles the approvals still needed. -/
def Config.generateApprovals (c : Config) (r : Reader) (s : State) (owner : Address) :
    Compile (List Calldata) := do
  let allowances ← c.readDepositAllowances r s owner
  lift (c.approvals s allowances)

def Config.depositFor (c : Config) (d : Session.Deposit) : Except CalldataError Calldata := do
  let (token, amount) ← c.amountOf d
  let some vaultId := c.vaultIdFor? d.token | throw (.vaultIdMissing d.token)
  let data := callData (selector depositSignature)
    [.address token.address, .uint vaultId, .uint amount, .array []]
  return ⟨c.orderbook, s!"deposit {d.token}", data⟩

/-- One deposit per session deposit, in order. -/
def Config.depositCalls (c : Config) (s : State) : Except CalldataError (List Calldata) := do
  c.checkMinimums s
  s.deposits.mapM c.depositFor

/-- The bindings of a session: the scenario's, overridden by the session's fields. -/
def Config.bindingsFor (c : Config) (s : State) : Bindings :=
  c.scenarioBindings ++ s.bindings

/-- The order-adding call, without the minimum checks. -/
def Config.buildAddOrder (c : Config) (r : Reader) (s : State) (salt : Salt) : Compile Calldata := do
  let bindings := c.bindingsFor s
  let text ← composed (c.expression.compose bindings orderEntrypoints)
  let resolved ← resolve r c.deployer text
  let tasks ← if c.expression.hasEntrypoint postTaskEntrypoint then do
      let post ← composed (c.expression.compose bindings [postTaskEntrypoint])
      let post ← reparse r c.deployer resolved post
      pure [AbiValue.tuple [post.toAbi, .array []]]
    else pure []
  let config : AbiValue := .tuple [resolved.toAbi, .array (c.inputs.map vaultAbi),
    .array (c.outputs.map vaultAbi), .word salt.nonce, .word salt.secret,
    .bytes (sourceMeta text)]
  return ⟨c.orderbook, s!"add order {c.deployment}",
    callData (selector addOrderSignature) [config, .array tasks]⟩

/-- Checks the minimums, then compiles the order-adding call. -/
def Config.addOrder (c : Config) (r : Reader) (s : State) (salt : Salt) : Compile Calldata := do
  lift (c.checkMinimums s)
  c.buildAddOrder r s salt

def Config.aggregate (c : Config) (calls : List Calldata) : Calldata :=
  let calls := calls.map fun call =>
    AbiValue.tuple [.address c.orderbook, .bool false, .bytes call.data]
  ⟨c.orderbook, "deposit and add order", callData (selector aggregate3Signature) [.array calls]⟩

/-- The deposits and the order bundled into one call to the orderbook. -/
def Config.multicall (c : Config) (r : Reader) (s : State) (salt : Salt) : Compile Calldata := do
  let deposits ← lift (c.depositCalls s)
  let order ← c.buildAddOrder r s salt
  return c.aggregate (deposits ++ [order])

end StrategyDeploy.Deployment

import StrategyDeploy.Calldata.Basic
import StrategyDeploy.Amount.Decimal
import StrategyDeploy.Session.Store
import StrategyDeploy.Text.Blank

/-! Minimums. -/
namespace StrategyDeploy.Calldata

open StrategyDeploy.Amount StrategyDeploy.Deployment StrategyDeploy.Session StrategyDeploy.Text

def fractionLength (raw : String) : Nat :=
  match (trim raw).toList.span (· ≠ '.') with
  | (_, _ :: fraction) => (String.ofList fraction).utf8ByteSize
  | (_, []) => 0

def maxCompareScale : Nat := 255

def exactBelow (id min value : String) : Except CalldataError Bool := do
  let scale := max (fractionLength value) (fractionLength min)
  if maxCompareScale < scale then throw (.notNumeric id value)
  let some v := (parseUnits value scale).toOption | throw (.notNumeric id value)
  let some m := (parseUnits min scale).toOption | throw (.notNumeric id min)
  return decide (v < m)

def isBelow (id min value : String) : Except CalldataError Bool :=
  match Decimal.parse? (trim value), Decimal.parse? (trim min) with
  | some v, some m => .ok (v.lt m)
  | _, _ => exactBelow id min value

/-- Checks a field value against a minimum. -/
def checkMinimum (id min value : String) : Except CalldataError Unit := do
  if ← isBelow id min value then throw (.belowMinimum id min value)

end StrategyDeploy.Calldata

namespace StrategyDeploy.Deployment

open StrategyDeploy.Calldata StrategyDeploy.Amount StrategyDeploy.Session

def Config.checkField (c : Config) (f : FieldValue) : Except CalldataError Unit := do
  let spec ← (c.fieldSpec f.binding).mapError .binding
  match spec.min with
  | some min => checkMinimum f.binding min f.value
  | none => pure ()

/-- Checks one deposit against its deposit's minimum. -/
def Config.checkDeposit (c : Config) (d : Session.Deposit) : Except CalldataError Unit := do
  let spec ← (c.depositSpec d.token).mapError .binding
  match spec.min with
  | some min =>
    let token ← (c.depositToken d.token).mapError .binding
    let amount ← (parseUnits d.amount token.decimals).mapError .encoding
    let least ← (parseUnits min token.decimals).mapError .encoding
    if amount < least then throw (.belowMinimum d.token min d.amount)
  | none => pure ()

/-- Checks every set field, then every deposit. -/
def Config.checkMinimums (c : Config) (s : State) : Except CalldataError Unit := do
  s.fields.forM c.checkField
  s.deposits.forM c.checkDeposit

end StrategyDeploy.Deployment

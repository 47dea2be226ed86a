import StrategyDeploy.App.Settings
import StrategyDeploy.App.Error
import StrategyDeploy.Calldata.Compile
import StrategyDeploy.Text.JsonDoc

/-! The application: one deployment, one session, one command. -/
namespace StrategyDeploy.App

open StrategyDeploy.Deployment StrategyDeploy.Session StrategyDeploy.Calldata
open StrategyDeploy.Reader StrategyDeploy.Evm StrategyDeploy.Bytes StrategyDeploy.Text

/-- What to produce for the session. -/
inductive Command where
  | describe
  | serialize
  | allowances (owner : Address)
  | approvals (owner : Address)
  | deposits
  | addOrder (salt : Salt)
  | multicall (salt : Salt)

/-- What a command produces. -/
inductive Output where
  | blob (text : String)
  | document (doc : JsonDoc)

def Output.text : Output → String
  | .blob text => text
  | .document doc => doc.render

/-- A loaded deployment and the session being configured for it. -/
structure Application where
  settings : Settings
  store : Store

def Settings.ofText (text : String) : Except AppError Settings :=
  match Settings.parse? text with
  | some s => .ok s
  | none => .error (.settings .malformed)

/-- Loads `deployment` from `source`, restoring `state` if given. -/
def Application.new (settings : Settings) (source deployment : String) (state : Option String) :
    Except AppError Application := do
  let config ← (Config.load source deployment).mapError .deployment
  let store ← match state with
    | some blob => (Store.deserialize config blob).mapError .codec
    | none => pure ⟨config, {}⟩
  return ⟨settings, store⟩

/-- Applies field values and deposits; every deposit token, then every binding, is checked
before anything is written. -/
def Application.apply (app : Application) (fields deposits : List (String × String)) :
    Except AppError Application := do
  deposits.forM fun (token, _) => do
    let _ ← (app.store.config.depositToken token).mapError .state
  let store ← (app.store.setFields fields).mapError .state
  let store ← (store.setDeposits deposits).mapError .state
  return { app with store }

/-- The endpoint reads go to: the settings' override, or the deployment network's. -/
def Application.endpoint (app : Application) : String :=
  app.settings.rpcUrl.getD app.store.config.network.rpc

def calldataDoc (c : Calldata) : JsonDoc :=
  .object [("target", .string c.target.checksummed), ("label", .string c.label),
    ("data", .string (toPrefixedHex c.data))]

def hexNumber (n : Nat) : String := "0x" ++ String.ofList (Nat.toDigits 16 n)

def allowanceDoc (a : Allowance) : JsonDoc :=
  .object [("token", .string a.token.lower), ("allowance", .string (hexNumber a.allowance))]

/-- The deployment with the session's current values. -/
def Application.describe (app : Application) : JsonDoc :=
  let c := app.store.config
  let s := app.store.state
  let fields := c.fields.map fun f => JsonDoc.object [
    ("binding", .string f.binding), ("name", .string f.name),
    ("description", .string f.description), ("min", .ofOption f.min),
    ("presets", .array (f.presets.map fun p =>
      .object [("name", .ofOption p.name), ("value", .string p.value)])),
    ("value", .ofOption (s.fieldValue? f.binding))]
  let deposits := c.deposits.map fun d => JsonDoc.object [
    ("token", .string d.token), ("symbol", .ofOption ((c.token? d.token).bind (·.symbol))),
    ("min", .ofOption d.min), ("presets", .array (d.presets.map .string)),
    ("amount", .ofOption ((s.deposit? d.token).map (·.amount)))]
  .object [("deployment", .string c.deployment), ("name", .string c.name),
    ("description", .string c.description),
    ("network", .object [("name", .string c.network.name), ("rpc", .string c.network.rpc),
      ("chain_id", .number c.network.chainId)]),
    ("orderbook", .string c.orderbook.checksummed), ("deployer", .string c.deployer.checksummed),
    ("fields", .array fields), ("deposits", .array deposits)]

/-- A run that reads contracts and may fail. -/
abbrev Run := ExceptT AppError Reads

def compiling {α : Type} (x : Compile α) : Run α := ExceptT.adapt AppError.calldata x

/-- Runs a command, reading through `r`. -/
def Application.runWith (app : Application) (r : Reader) : Command → Run Output
  | .describe => pure (.document app.describe)
  | .serialize => pure (.blob app.store.serialize)
  | .allowances owner => do
    let found ← compiling (app.store.config.readDepositAllowances r app.store.state owner)
    pure (.document (.array (found.map allowanceDoc)))
  | .approvals owner => do
    let calls ← compiling (app.store.config.generateApprovals r app.store.state owner)
    pure (.document (.array (calls.map calldataDoc)))
  | .deposits => do
    let calls ← compiling (lift (app.store.config.depositCalls app.store.state))
    pure (.document (.array (calls.map calldataDoc)))
  | .addOrder salt => do
    let call ← compiling (app.store.config.addOrder r app.store.state salt)
    pure (.document (calldataDoc call))
  | .multicall salt => do
    let call ← compiling (app.store.config.multicall r app.store.state salt)
    pure (.document (calldataDoc call))

end StrategyDeploy.App

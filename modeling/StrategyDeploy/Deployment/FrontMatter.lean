import StrategyDeploy.Toml.Parse
import StrategyDeploy.Toml.Shape

/-! The front matter of a deployment document as written, nothing resolved. -/
namespace StrategyDeploy.Deployment

open StrategyDeploy.Toml

/-- A network: its endpoint and chain id. -/
structure NetworkEntry where
  rpc : String
  chainId : Nat
  deriving Repr

/-- A deployed contract: its network's name and its address text. -/
structure ContractEntry where
  network : String
  address : String
  deriving Repr

/-- A token as written. -/
structure TokenEntry where
  network : String
  address : String
  decimals : Nat
  label : Option String
  symbol : Option String
  deriving Repr

/-- A scenario: its deployer's name and the values it binds. -/
structure ScenarioEntry where
  deployer : String
  bindings : List (String × String)
  deriving Repr

/-- One vault of an order: a token name and the vault id text. -/
structure VaultEntry where
  token : String
  vaultId : String
  deriving Repr

/-- An order: its orderbook's name, input vaults and output vaults. -/
structure OrderEntry where
  orderbook : String
  inputs : List VaultEntry
  outputs : List VaultEntry
  deriving Repr

/-- A deployment: a scenario and an order, by name. -/
structure DeploymentEntry where
  scenario : String
  order : String
  deriving Repr

/-- A token the user may deposit, with an optional minimum and suggested amounts. -/
structure DepositEntry where
  token : String
  min : Option String
  presets : List String
  deriving Repr

/-- A suggested field value, optionally named. -/
structure PresetEntry where
  name : Option String
  value : String
  deriving Repr

/-- A field the user may set: the binding it fills, with its text and suggestions. -/
structure FieldEntry where
  binding : String
  name : String
  description : String
  min : Option String
  presets : List PresetEntry
  deriving Repr

/-- A deployment as the gui offers it. -/
structure GuiDeploymentEntry where
  deployment : String
  name : String
  description : String
  deposits : List DepositEntry
  fields : List FieldEntry
  deriving Repr

/-- The gui section. -/
structure GuiEntry where
  name : String
  description : String
  deployments : List GuiDeploymentEntry
  deriving Repr

/-- A front matter as written. -/
structure FrontMatter where
  networks : List (String × NetworkEntry)
  deployers : List (String × ContractEntry)
  orderbooks : List (String × ContractEntry)
  tokens : List (String × TokenEntry)
  scenarios : List (String × ScenarioEntry)
  orders : List (String × OrderEntry)
  deployments : List (String × DeploymentEntry)
  gui : Option GuiEntry
  deriving Repr

def NetworkEntry.read? (v : Value) : Option NetworkEntry := do
  let r ← v.asRecord?
  return ⟨← r.required 0 "rpc" Value.asString?, ← r.required 1 "chain-id" Value.asU64?⟩

def ContractEntry.read? (v : Value) : Option ContractEntry := do
  let r ← v.asRecord?
  return ⟨← r.required 0 "network" Value.asString?, ← r.required 1 "address" Value.asString?⟩

def TokenEntry.read? (v : Value) : Option TokenEntry := do
  let r ← v.asRecord?
  return ⟨← r.required 0 "network" Value.asString?, ← r.required 1 "address" Value.asString?,
    ← r.required 2 "decimals" Value.asByte?, ← r.optional 3 "label" Value.asString?,
    ← r.optional 4 "symbol" Value.asString?⟩

def ScenarioEntry.read? (v : Value) : Option ScenarioEntry := do
  let r ← v.asRecord?
  return ⟨← r.required 0 "deployer" Value.asString?,
    ← r.withDefault 1 "bindings" [] (Value.asMap? Value.asLiteral?)⟩

def VaultEntry.read? (v : Value) : Option VaultEntry := do
  let r ← v.asRecord?
  return ⟨← r.required 0 "token" Value.asString?, ← r.required 1 "vault-id" Value.asLiteral?⟩

def OrderEntry.read? (v : Value) : Option OrderEntry := do
  let r ← v.asRecord?
  return ⟨← r.required 0 "orderbook" Value.asString?,
    ← r.withDefault 1 "inputs" [] (Value.asList? VaultEntry.read?),
    ← r.withDefault 2 "outputs" [] (Value.asList? VaultEntry.read?)⟩

def DeploymentEntry.read? (v : Value) : Option DeploymentEntry := do
  let r ← v.asRecord?
  return ⟨← r.required 0 "scenario" Value.asString?, ← r.required 1 "order" Value.asString?⟩

def DepositEntry.read? (v : Value) : Option DepositEntry := do
  let r ← v.asRecord?
  return ⟨← r.required 0 "token" Value.asString?, ← r.optional 1 "min" Value.asLiteral?,
    ← r.withDefault 2 "presets" [] (Value.asList? Value.asLiteral?)⟩

def PresetEntry.read? (v : Value) : Option PresetEntry := do
  let r ← v.asRecord?
  return ⟨← r.optional 0 "name" Value.asString?, ← r.required 1 "value" Value.asLiteral?⟩

def FieldEntry.read? (v : Value) : Option FieldEntry := do
  let r ← v.asRecord?
  return ⟨← r.required 0 "binding" Value.asString?, ← r.required 1 "name" Value.asString?,
    ← r.withDefault 2 "description" "" Value.asString?, ← r.optional 3 "min" Value.asLiteral?,
    ← r.withDefault 4 "presets" [] (Value.asList? PresetEntry.read?)⟩

def GuiDeploymentEntry.read? (v : Value) : Option GuiDeploymentEntry := do
  let r ← v.asRecord?
  return ⟨← r.required 0 "deployment" Value.asString?, ← r.required 1 "name" Value.asString?,
    ← r.withDefault 2 "description" "" Value.asString?,
    ← r.withDefault 3 "deposits" [] (Value.asList? DepositEntry.read?),
    ← r.withDefault 4 "fields" [] (Value.asList? FieldEntry.read?)⟩

def GuiEntry.read? (v : Value) : Option GuiEntry := do
  let r ← v.asRecord?
  return ⟨← r.required 0 "name" Value.asString?, ← r.withDefault 1 "description" "" Value.asString?,
    ← r.withDefault 2 "deployments" [] (Value.asList? GuiDeploymentEntry.read?)⟩

/-- Reads a front matter from its root table. -/
def FrontMatter.read? (v : Value) : Option FrontMatter := do
  let r ← v.asRecord?
  return ⟨← r.withDefault 0 "networks" [] (Value.asMap? NetworkEntry.read?),
    ← r.withDefault 1 "deployers" [] (Value.asMap? ContractEntry.read?),
    ← r.withDefault 2 "orderbooks" [] (Value.asMap? ContractEntry.read?),
    ← r.withDefault 3 "tokens" [] (Value.asMap? TokenEntry.read?),
    ← r.withDefault 4 "scenarios" [] (Value.asMap? ScenarioEntry.read?),
    ← r.withDefault 5 "orders" [] (Value.asMap? OrderEntry.read?),
    ← r.withDefault 6 "deployments" [] (Value.asMap? DeploymentEntry.read?),
    ← r.optional 7 "gui" GuiEntry.read?⟩

/-- Parses a front matter text; `none` when it is not TOML or not of this shape. -/
def FrontMatter.parse? (text : String) : Option FrontMatter :=
  (Toml.parse? text).bind FrontMatter.read?

end StrategyDeploy.Deployment

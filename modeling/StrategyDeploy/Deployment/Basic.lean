import StrategyDeploy.Evm.Address
import StrategyDeploy.Expression.Basic

/-! A resolved deployment: every reference of the front matter checked and replaced. -/
namespace StrategyDeploy.Deployment

open StrategyDeploy.Evm StrategyDeploy.Bytes StrategyDeploy.Expression

/-- A token with its address and unit. -/
structure TokenInfo where
  key : String
  address : Address
  decimals : Nat
  label : Option String
  symbol : Option String
  deriving Repr, DecidableEq

def TokenInfo.display (t : TokenInfo) : String :=
  match t.symbol with
  | some symbol => s!"{t.key} ({symbol})"
  | none => t.key

/-- The network a deployment targets. -/
structure Network where
  name : String
  rpc : String
  chainId : Nat
  deriving Repr, DecidableEq

/-- A vault of the order: a token and the vault id. -/
structure Vault where
  token : TokenInfo
  vaultId : Nat
  deriving Repr, DecidableEq

/-- A suggested value of a field. -/
structure Preset where
  name : Option String
  value : String
  deriving Repr, DecidableEq

/-- A field a user may set. -/
structure FieldSpec where
  binding : String
  name : String
  description : String
  min : Option String
  presets : List Preset
  deriving Repr, DecidableEq, Inhabited

/-- A token a user may deposit. -/
structure DepositSpec where
  token : String
  min : Option String
  presets : List String
  deriving Repr, DecidableEq, Inhabited

/-- Positions by name, kept as a map: a name gives back the position last put under it. -/
structure NameIndex where
  entries : List (String × Nat) := []
  deriving Repr

def NameIndex.get? (ix : NameIndex) (name : String) : Option Nat :=
  (ix.entries.find? (·.1 == name)).map (·.2)

/-- Puts `name` at `position`, giving back the position it held before, if any. -/
def NameIndex.insert (ix : NameIndex) (name : String) (position : Nat) : Option Nat × NameIndex :=
  (ix.get? name, ⟨(name, position) :: ix.entries⟩)

/-- The index gives each name of `names` its position there, and no other name a position. -/
def NameIndex.Indexes (ix : NameIndex) (names : List String) : Prop :=
  ∀ name i, ix.get? name = some i ↔ names[i]? = some name

/-- A resolved deployment. -/
structure Config where
  deployment : String
  name : String
  description : String
  guiName : String
  guiDescription : String
  fields : List FieldSpec
  deposits : List DepositSpec
  fieldIndex : NameIndex
  depositIndex : NameIndex
  tokens : List TokenInfo
  network : Network
  orderbook : Address
  deployer : Address
  inputs : List Vault
  outputs : List Vault
  scenarioBindings : List (String × String)
  expression : Expression
  fingerprint : Bytes32
  /-- Loading is the only way to a deployment, and it indexes each binding and deposit token at
  its position. -/
  fieldIndex_indexes : fieldIndex.Indexes (fields.map (·.binding))
  depositIndex_indexes : depositIndex.Indexes (deposits.map (·.token))

/-- A binding or deposit token that the deployment does not offer. -/
inductive BindingError where
  | unknownBinding (binding : String)
  | unknownDepositToken (token : String)
  deriving Repr, DecidableEq

def BindingError.message : BindingError → String
  | .unknownBinding b => s!"Field binding not found: {b}"
  | .unknownDepositToken t => s!"Deposit token not found in gui config: {t}"

/-- The field that fills `binding`, at the position the index gives it. -/
def Config.fieldSpec (c : Config) (binding : String) : Except BindingError FieldSpec :=
  match c.fieldIndex.get? binding with
  | some i => .ok c.fields[i]!
  | none => .error (.unknownBinding binding)

/-- The deposit of `token`, at the position the index gives it. -/
def Config.depositSpec (c : Config) (token : String) : Except BindingError DepositSpec :=
  match c.depositIndex.get? token with
  | some i => .ok c.deposits[i]!
  | none => .error (.unknownDepositToken token)

def Config.token? (c : Config) (key : String) : Option TokenInfo :=
  c.tokens.find? (·.key == key)

def Config.tokensByKey (c : Config) : List TokenInfo :=
  c.tokens.mergeSort fun a b => decide (a.key ≤ b.key)

/-- The token of a deposit. -/
def Config.depositToken (c : Config) (token : String) : Except BindingError TokenInfo := do
  let _ ← c.depositSpec token
  match c.token? token with
  | some t => .ok t
  | none => .error (.unknownDepositToken token)

/-- The vault a deposit of `token` goes to: its output vault, else its input vault. -/
def Config.vaultIdFor? (c : Config) (token : String) : Option Nat :=
  ((c.outputs ++ c.inputs).find? (·.token.key == token)).map (·.vaultId)

end StrategyDeploy.Deployment

import StrategyDeploy.Deployment.Basic

/-! A session: the field values and deposits a user has set for one deployment. -/
namespace StrategyDeploy.Session

open StrategyDeploy.Deployment StrategyDeploy.Evm

/-- A value set for a field binding, as text. -/
structure FieldValue where
  binding : String
  value : String
  deriving Repr, DecidableEq

/-- An amount to deposit, in human units, with the token's address. -/
structure Deposit where
  token : String
  address : Address
  amount : String
  deriving Repr, DecidableEq

/-- The entries of a session. -/
structure State where
  fields : List FieldValue := []
  deposits : List Deposit := []
  deriving Repr, DecidableEq

/-- Replaces the first item that `hit` picks by `update` of it, or appends `fresh`. -/
def upsertFirst {α : Type} (hit : α → Bool) (update : α → α) (fresh : α) : List α → List α
  | [] => [fresh]
  | x :: xs => if hit x then update x :: xs else x :: upsertFirst hit update fresh xs

def State.fieldValue? (s : State) (binding : String) : Option String :=
  (s.fields.find? (·.binding == binding)).map (·.value)

def State.deposit? (s : State) (token : String) : Option Deposit :=
  s.deposits.find? (·.token == token)

def State.bindings (s : State) : List (String × String) :=
  s.fields.map fun f => (f.binding, f.value)

def State.isEmpty (s : State) : Bool := s.fields.isEmpty && s.deposits.isEmpty

def State.putField (s : State) (binding value : String) : State :=
  let fields := upsertFirst (·.binding == binding) (fun f => { f with value := value })
    ⟨binding, value⟩ s.fields
  { s with fields }

def State.putDeposit (s : State) (token : String) (address : Address) (amount : String) : State :=
  let deposits := upsertFirst (·.token == token)
    (fun d => { d with address := address, amount := amount }) ⟨token, address, amount⟩ s.deposits
  { s with deposits }

def State.dropField (s : State) (binding : String) : State :=
  { s with fields := s.fields.filter (·.binding != binding) }

def State.dropDeposit (s : State) (token : String) : State :=
  { s with deposits := s.deposits.filter (·.token != token) }

/-- A session bound to the deployment it configures. -/
structure Store where
  config : Config
  state : State := {}

def Store.setField (st : Store) (binding value : String) : Except BindingError Store := do
  let _ ← st.config.fieldSpec binding
  return { st with state := st.state.putField binding value }

/-- Sets several field values; every binding is checked before any is written. -/
def Store.setFields (st : Store) (values : List (String × String)) : Except BindingError Store := do
  values.forM fun (b, _) => do let _ ← st.config.fieldSpec b
  return { st with state := values.foldl (fun s (b, v) => s.putField b v) st.state }

def Store.getField (st : Store) (binding : String) : Except BindingError (Option String) := do
  let _ ← st.config.fieldSpec binding
  return st.state.fieldValue? binding

def Store.removeField (st : Store) (binding : String) : Except BindingError Store := do
  let _ ← st.config.fieldSpec binding
  return { st with state := st.state.dropField binding }

def Store.setDeposit (st : Store) (token amount : String) : Except BindingError Store := do
  let t ← st.config.depositToken token
  return { st with state := st.state.putDeposit token t.address amount }

/-- Sets several deposits; every token is resolved before any is written. -/
def Store.setDeposits (st : Store) (deposits : List (String × String)) :
    Except BindingError Store := do
  let resolved ← deposits.mapM fun (token, amount) => do
    let t ← st.config.depositToken token
    return (token, t.address, amount)
  return { st with state := resolved.foldl (fun s (t, a, amt) => s.putDeposit t a amt) st.state }

def Store.removeDeposit (st : Store) (token : String) : Store :=
  { st with state := st.state.dropDeposit token }

def Store.clear (st : Store) : Store := { st with state := {} }

end StrategyDeploy.Session

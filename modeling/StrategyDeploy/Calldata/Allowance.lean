import StrategyDeploy.Calldata.Basic

/-! Allowances: what an owner lets a spender take of each token, read together. -/
namespace StrategyDeploy.Calldata

open StrategyDeploy.Evm StrategyDeploy.Reader

/-- An owner's allowance for the spender on one token. -/
structure Allowance where
  token : Address
  allowance : Nat
  deriving Repr

/-- The allowance of a token among allowances read: that of the first one for it, else none. -/
def allowanceIn (allowances : List Allowance) (token : Address) : Nat :=
  ((allowances.find? (·.token == token)).map (·.allowance)).getD 0

def allowanceCall (spender owner token : Address) : Call :=
  ⟨token, callData (selector "allowance(address,address)") [.address owner, .address spender]⟩

def allowanceOf (token : Address) : Except RpcError (List UInt8) → Except CalldataError Allowance
  | .error e => .error (.allowanceQueryFailed token e)
  | .ok returned =>
    match decodeUintReturn returned with
    | some allowance => .ok ⟨token, allowance⟩
    | none => .error (.allowanceQueryFailed token (.decode (.abi returned)))

def readAllowance (r : Reader) (spender owner token : Address) : Compile Allowance := do
  lift (allowanceOf token (← liftM (r.call (allowanceCall spender owner token))))

/-- The most reads that are joined by polling each in turn; a larger batch is collected in call
order. -/
def pollLimit : Nat := 30

/-- Joins the results of reads made together, each with the call it answers: the results in the
order the reads were made, unless one failed. Up to `pollLimit` reads, walking the results in the
order their answers come back (a stable sort, so answers back at the same time keep call order),
the first failure fails the batch; in a larger batch the first failure in call order does. -/
def joinArrived {α : Type} (arrival : Call → Nat) (results : List (Call × Except CalldataError α)) :
    Except CalldataError (List α) :=
  if results.length ≤ pollLimit then do
    let _ ← (results.mergeSort fun a b => arrival a.1 ≤ arrival b.1).mapM (·.2)
    results.mapM (·.2)
  else results.mapM (·.2)

/-- Reads one allowance per token, the reads made together. -/
def readAllowances (r : Reader) (spender owner : Address) (tokens : List Address) :
    Compile (List Allowance) :=
  if r.atOnce then tokens.mapM (readAllowance r spender owner)
  else do
    let calls := tokens.map (allowanceCall spender owner)
    let answers ← liftM (r.callTogether calls)
    lift (joinArrived r.arrival (calls.zip (List.zipWith allowanceOf tokens answers)))

end StrategyDeploy.Calldata

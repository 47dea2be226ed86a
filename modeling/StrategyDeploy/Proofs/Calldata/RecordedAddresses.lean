import StrategyDeploy.Calldata.Compile
import StrategyDeploy.Proofs.Deployment.Loaded
import StrategyDeploy.Proofs.Calldata.AcceptedUpdates

/-! The address a session records with a deposit is never used. -/
namespace StrategyDeploy.Session

open StrategyDeploy.Evm

/-- What of a deposit the compiler reads: its token key and its amount. -/
def Deposit.entry (d : Deposit) : String × String := (d.token, d.amount)

/-- The deposit of an entry, recorded with the zero address. -/
def Deposit.ofEntry (e : String × String) : Deposit := ⟨e.1, Address.zero, e.2⟩

/-- Two sessions with the same fields whose deposits differ at most in the addresses recorded. -/
structure State.SameButAddresses (s s' : State) : Prop where
  fields : s.fields = s'.fields
  deposits : s.deposits.map Deposit.entry = s'.deposits.map Deposit.entry

namespace State.SameButAddresses

variable {s s' : State} {m : Type → Type} [Monad m] [LawfulMonad m]

theorem mapM_eq (h : s.SameButAddresses s') {β : Type} {f : Deposit → m β}
    (hf : ∀ d, f (Deposit.ofEntry d.entry) = f d) : s.deposits.mapM f = s'.deposits.mapM f := by
  have through :
      ∀ ds : List Deposit, ds.mapM f = (ds.map Deposit.entry).mapM (f ∘ Deposit.ofEntry) := by
    intro ds
    rw [List.mapM_map]
    congr
    funext d
    exact (hf d).symm
  rw [through, h.deposits, ← through]

theorem forM_eq (h : s.SameButAddresses s') {f : Deposit → m PUnit}
    (hf : ∀ d, f (Deposit.ofEntry d.entry) = f d) : s.deposits.forM f = s'.deposits.forM f := by
  have through :
      ∀ ds : List Deposit, ds.forM f = (ds.map Deposit.entry).forM (f ∘ Deposit.ofEntry) := by
    intro ds
    -- `List.forM_map` is stated for the `forM` of the `ForM` class
    change forM ds f = forM (ds.map Deposit.entry) (f ∘ Deposit.ofEntry)
    rw [List.forM_map]
    congr
    funext d
    exact (hf d).symm
  rw [through, h.deposits, ← through]

end State.SameButAddresses

end StrategyDeploy.Session

namespace StrategyDeploy.Deployment

open StrategyDeploy.Evm StrategyDeploy.Calldata StrategyDeploy.Session

namespace Config

variable (c : Config) {s s' : State}

/-- Each step of compilation on one deposit reads only its token key and amount. -/
@[simp] theorem checkDeposit_ofEntry (d : Session.Deposit) :
    c.checkDeposit (Deposit.ofEntry d.entry) = c.checkDeposit d := rfl

@[simp] theorem approvalFor_ofEntry (allowances : List Allowance) (d : Session.Deposit) :
    c.approvalFor allowances (Deposit.ofEntry d.entry) = c.approvalFor allowances d := rfl

@[simp] theorem depositFor_ofEntry (d : Session.Deposit) :
    c.depositFor (Deposit.ofEntry d.entry) = c.depositFor d := rfl

theorem checkMinimums_eq (h : s.SameButAddresses s') : c.checkMinimums s = c.checkMinimums s' := by
  unfold Config.checkMinimums
  rw [h.fields, h.forM_eq (c.checkDeposit_ofEntry)]

theorem approvals_eq (h : s.SameButAddresses s') (allowances : List Allowance) :
    c.approvals s allowances = c.approvals s' allowances := by
  unfold Config.approvals
  rw [c.checkMinimums_eq h, h.mapM_eq (c.approvalFor_ofEntry allowances)]

theorem depositCalls_eq (h : s.SameButAddresses s') : c.depositCalls s = c.depositCalls s' := by
  unfold Config.depositCalls
  rw [c.checkMinimums_eq h, h.mapM_eq c.depositFor_ofEntry]

theorem readDepositAllowances_eq (h : s.SameButAddresses s') (r : Reader) (owner : Address) :
    c.readDepositAllowances r s owner = c.readDepositAllowances r s' owner := by
  unfold Config.readDepositAllowances
  rw [h.mapM_eq (f := fun d => (c.tokenOf d).map (·.address)) (fun _ => rfl)]

theorem generateApprovals_eq (h : s.SameButAddresses s') (r : Reader) (owner : Address) :
    c.generateApprovals r s owner = c.generateApprovals r s' owner := by
  unfold Config.generateApprovals
  simp only [c.readDepositAllowances_eq h, c.approvals_eq h]

/-- The order reads the session only through its fields. -/
theorem buildAddOrder_eq (h : s.SameButAddresses s') (r : Reader) (salt : Salt) :
    c.buildAddOrder r s salt = c.buildAddOrder r s' salt := by
  unfold Config.buildAddOrder Config.bindingsFor State.bindings
  rw [h.fields]

theorem addOrder_eq (h : s.SameButAddresses s') (r : Reader) (salt : Salt) :
    c.addOrder r s salt = c.addOrder r s' salt := by
  unfold Config.addOrder
  rw [c.checkMinimums_eq h, c.buildAddOrder_eq h]

theorem multicall_eq (h : s.SameButAddresses s') (r : Reader) (salt : Salt) :
    c.multicall r s salt = c.multicall r s' salt := by
  unfold Config.multicall
  rw [c.depositCalls_eq h, c.buildAddOrder_eq h]

/-- Compilation never reads the addresses a session records with its deposits. For two
sessions with equal fields whose deposits agree in token keys and amounts, entry by entry, the
allowance reads, the approvals (with the allowances given or read), the deposits, the order and
the multicall are the same computations: from any log of reads they return the same result and
make the same reads. Every token address they encode or read is therefore the one the deployment
declares for the deposit's token key. -/
theorem compile_ignores_recorded_addresses (r : Reader) (owner : Address)
    (allowances : List Allowance) (salt : Salt)
    (fields : s.fields = s'.fields)
    (deposits : s.deposits.map Deposit.entry = s'.deposits.map Deposit.entry) :
    c.readDepositAllowances r s owner = c.readDepositAllowances r s' owner ∧
    c.approvals s allowances = c.approvals s' allowances ∧
    c.generateApprovals r s owner = c.generateApprovals r s' owner ∧
    c.depositCalls s = c.depositCalls s' ∧
    c.addOrder r s salt = c.addOrder r s' salt ∧
    c.multicall r s salt = c.multicall r s' salt := by
  have same : s.SameButAddresses s' := ⟨fields, deposits⟩
  exact ⟨c.readDepositAllowances_eq same r owner, c.approvals_eq same allowances,
    c.generateApprovals_eq same r owner, c.depositCalls_eq same, c.addOrder_eq same r salt,
    c.multicall_eq same r salt⟩

end Config

/-- On a deployment that offers deposits of `t`, a deposit restored with a forged address
compiles as the one recorded with the zero address. -/
theorem forged_address_compiles_alike :
    let s : State := { deposits := [⟨"t", Address.zero, "1"⟩] }
    let s' : State := { deposits := [⟨"t", ⟨List.replicate 20 0x44, List.length_replicate⟩, "1"⟩] }
    s.fields = s'.fields ∧ s.deposits.map Deposit.entry = s'.deposits.map Deposit.entry ∧
      oneFieldOneToken.readDepositAllowances Reader.unreachable s Address.zero =
        oneFieldOneToken.readDepositAllowances Reader.unreachable s' Address.zero ∧
      oneFieldOneToken.approvals s [] = oneFieldOneToken.approvals s' [] ∧
      oneFieldOneToken.generateApprovals Reader.unreachable s Address.zero =
        oneFieldOneToken.generateApprovals Reader.unreachable s' Address.zero ∧
      oneFieldOneToken.depositCalls s = oneFieldOneToken.depositCalls s' ∧
      oneFieldOneToken.addOrder Reader.unreachable s ⟨default, default⟩ =
        oneFieldOneToken.addOrder Reader.unreachable s' ⟨default, default⟩ ∧
      oneFieldOneToken.multicall Reader.unreachable s ⟨default, default⟩ =
        oneFieldOneToken.multicall Reader.unreachable s' ⟨default, default⟩ :=
  ⟨rfl, rfl, oneFieldOneToken.compile_ignores_recorded_addresses Reader.unreachable Address.zero
    [] ⟨default, default⟩ rfl rfl⟩

end StrategyDeploy.Deployment

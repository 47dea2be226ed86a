import StrategyDeploy.Proofs.Calldata.Deposits
import StrategyDeploy.Proofs.Calldata.Allowances

/-! Approvals. -/
namespace StrategyDeploy.Calldata

open StrategyDeploy.Evm

theorem filterMap_cons_sublist {α : Type} {n n' : Option α} {l l' : List (Option α)}
    (kept : n' = none ∨ n' = n) (rest : List.Sublist (l'.filterMap id) (l.filterMap id)) :
    List.Sublist ((n' :: l').filterMap id) ((n :: l).filterMap id) := by
  rcases kept with rfl | rfl
  · cases n with
    | none => exact rest
    | some x => exact rest.cons x
  · cases n' with
    | none => exact rest
    | some x => exact rest.cons_cons x

end StrategyDeploy.Calldata

namespace StrategyDeploy.Deployment

open StrategyDeploy.Evm StrategyDeploy.Amount StrategyDeploy.Calldata StrategyDeploy.Session
open StrategyDeploy.Reader

variable {c : Config} {s : State} {A A' : List Allowance}

theorem Config.approvalFor_eq_map (c : Config) (A : List Allowance) (d : Deposit) :
    c.approvalFor A d = (fun p : TokenInfo × Nat => if p.2 ≤ allowanceIn A p.1.address then none
      else some ⟨p.1.address, s!"approve {d.token}",
        callData (selector "approve(address,uint256)") [.address c.orderbook, .uint p.2]⟩) <$>
      c.amountOf d := by
  unfold Config.approvalFor
  cases c.amountOf d with
  | error e => rfl
  | ok p =>
    obtain ⟨tk, amount⟩ := p
    show (if amount ≤ allowanceIn A tk.address then _ else _) = _
    by_cases covered : amount ≤ allowanceIn A tk.address <;>
      simp [covered, Functor.map, Except.map, pure, Except.pure]

theorem Config.approvalFor_eq_error_iff {d : Deposit} {e : CalldataError} :
    c.approvalFor A d = .error e ↔ c.amountOf d = .error e := by
  rw [Config.approvalFor_eq_map, Except.map_eq_error]

theorem Config.exists_approvalFor_ok_iff {d : Deposit} :
    (∃ n, c.approvalFor A d = .ok n) ↔ ∃ tk amount, c.depositToken d.token = .ok tk ∧
      parseUnits d.amount tk.decimals = .ok amount := by
  simp only [Config.approvalFor_eq_map, Except.map_eq_ok, Config.amountOf_eq_ok_iff]
  constructor
  · rintro ⟨_, _, ⟨tk, amount, htk, hamt, rfl⟩, -⟩
    exact ⟨tk, amount, htk, hamt⟩
  · rintro ⟨tk, amount, htk, hamt⟩
    exact ⟨_, _, ⟨tk, amount, htk, hamt, rfl⟩, rfl⟩

theorem Config.approvalFor_eq_ok_iff {d : Deposit} {n : Option Calldata} :
    c.approvalFor A d = .ok n ↔ ∃ tk amount, c.depositToken d.token = .ok tk ∧
      parseUnits d.amount tk.decimals = .ok amount ∧
      n = if amount ≤ allowanceIn A tk.address then none
        else some ⟨tk.address, s!"approve {d.token}",
          callData (selector "approve(address,uint256)") [.address c.orderbook, .uint amount]⟩ := by
  simp only [Config.approvalFor_eq_map, Except.map_eq_ok, Config.amountOf_eq_ok_iff]
  constructor
  · rintro ⟨_, ⟨tk, amount, htk, hamt, rfl⟩, rfl⟩
    exact ⟨tk, amount, htk, hamt, rfl⟩
  · rintro ⟨tk, amount, htk, hamt, rfl⟩
    exact ⟨_, ⟨tk, amount, htk, hamt, rfl⟩, rfl⟩

theorem Config.approvalFor_raised (raised : ∀ t, allowanceIn A t ≤ allowanceIn A' t)
    {d : Deposit} {n : Option Calldata} (h : c.approvalFor A d = .ok n) :
    ∃ n', c.approvalFor A' d = .ok n' ∧ (n' = none ∨ n' = n) := by
  rw [Config.approvalFor_eq_map] at h ⊢
  obtain ⟨⟨tk, amount⟩, read, rfl⟩ := Except.map_eq_ok.mp h
  refine ⟨_, by rw [read]; rfl, ?_⟩
  by_cases covered : amount ≤ allowanceIn A' tk.address
  · exact .inl (if_pos covered)
  · have short : ¬amount ≤ allowanceIn A tk.address := fun le => covered (le.trans (raised _))
    exact .inr (by simp only [if_neg covered, if_neg short])

theorem Config.mapM_approvalFor_raised (raised : ∀ t, allowanceIn A t ≤ allowanceIn A' t)
    {ds : List Deposit} {needed : List (Option Calldata)} (h : ds.mapM (c.approvalFor A) = .ok needed) :
    ∃ needed', ds.mapM (c.approvalFor A') = .ok needed' ∧
      List.Sublist (needed'.filterMap id) (needed.filterMap id) := by
  induction List.mapM_eq_ok_iff.mp h with
  | nil => exact ⟨[], rfl, List.Sublist.slnil⟩
  | @cons d n ds needed one _ ih =>
    obtain ⟨needed', rest, fewer⟩ := ih (List.mapM_eq_ok_iff.mpr ‹_›)
    obtain ⟨n', one', kept⟩ := Config.approvalFor_raised raised one
    exact ⟨n' :: needed', List.mapM_eq_ok_iff.mpr (.cons one' (List.mapM_eq_ok_iff.mp rest)),
      filterMap_cons_sublist kept fewer⟩

theorem Config.mapM_approvalFor_error {ds : List Deposit} {e : CalldataError}
    (h : ds.mapM (c.approvalFor A) = .error e) : ds.mapM (c.approvalFor A') = .error e := by
  rw [List.mapM_eq_error_iff] at h ⊢
  simp only [Config.exists_approvalFor_ok_iff, Config.approvalFor_eq_error_iff] at h ⊢
  exact h

theorem Config.approvals_of_unchecked {e : CalldataError} (failed : c.checkMinimums s = .error e) :
    c.approvals s A = .error e := by
  unfold Config.approvals
  rw [Except.bind_of_error failed]

theorem Config.approvals_of_checked (checked : c.checkMinimums s = .ok ()) :
    c.approvals s A = (fun needed => needed.filterMap id) <$> s.deposits.mapM (c.approvalFor A) := by
  unfold Config.approvals
  rw [Except.bind_of_ok checked]
  cases s.deposits.mapM (c.approvalFor A) <;> rfl

theorem Config.generateApprovals_run (c : Config) (r : Reader) (s : State) (owner : Address)
    (log : List Call) :
    (c.generateApprovals r s owner).run.run log =
      match (c.readDepositAllowances r s owner).run.run log with
      | (.ok A, log') => (c.approvals s A, log')
      | (.error e, log') => (.error e, log') := by
  unfold Config.generateApprovals
  rw [Compile.run_bind]
  rcases (c.readDepositAllowances r s owner).run.run log with ⟨_ | A, log'⟩
  · rfl
  · exact Compile.run_lift _ log'


/-- The approvals check the minimums, then go through the deposits in store order and stop at the
first whose token is missing or whose amount does not read. Otherwise there is one approval for
each deposit whose amount is more than its token's allowance (that of the first allowance read
for the token's address, none counting as zero), in store order: sent to the token, labelled
with it, approving the orderbook for the whole amount. The allowances decide nothing else, so
raising them only drops approvals; and after reading the allowances, the approvals are those of
the allowances read. -/
theorem Config.approvals_cover_shortfalls (c : Config) (s : State) (A : List Allowance) :
    (∀ e, c.checkMinimums s = .error e → c.approvals s A = .error e) ∧
    (c.checkMinimums s = .ok () →
      (∀ e, c.approvals s A = .error e ↔ ∃ pre d post, s.deposits = pre ++ d :: post ∧
        (∀ d' ∈ pre, ∃ tk amount, c.depositToken d'.token = .ok tk ∧
          parseUnits d'.amount tk.decimals = .ok amount) ∧
        ((∃ be, c.depositToken d.token = .error be ∧ e = .binding be) ∨
          ∃ tk ue, c.depositToken d.token = .ok tk ∧ parseUnits d.amount tk.decimals = .error ue ∧
            e = .encoding ue)) ∧
      ∀ calls, c.approvals s A = .ok calls ↔ ∃ needed, List.Forall₂ (fun d n => ∃ tk amount,
          c.depositToken d.token = .ok tk ∧ parseUnits d.amount tk.decimals = .ok amount ∧
          n = if amount ≤ allowanceIn A tk.address then none
            else some ⟨tk.address, s!"approve {d.token}",
              callData (selector "approve(address,uint256)") [.address c.orderbook, .uint amount]⟩)
        s.deposits needed ∧ calls = needed.filterMap id) ∧
    (∀ A' e, c.approvals s A = .error e → c.approvals s A' = .error e) ∧
    (∀ A', (∀ t, allowanceIn A t ≤ allowanceIn A' t) → ∀ calls, c.approvals s A = .ok calls →
      ∃ calls', c.approvals s A' = .ok calls' ∧ List.Sublist calls' calls) ∧
    (∀ r owner log log', (c.readDepositAllowances r s owner).run.run log = (.ok A, log') →
      (c.generateApprovals r s owner).run.run log = (c.approvals s A, log')) := by
  refine ⟨fun e failed => Config.approvals_of_unchecked failed,
    fun checked => ⟨fun e => ?_, fun calls => ?_⟩, fun A' e failed => ?_,
    fun A' raised calls made => ?_, fun r owner log log' read => ?_⟩
  · rw [Config.approvals_of_checked checked, Except.map_eq_error, List.mapM_eq_error_iff]
    simp only [Config.exists_approvalFor_ok_iff, Config.approvalFor_eq_error_iff,
      Config.amountOf_eq_error_iff]
  · rw [Config.approvals_of_checked checked, Except.map_eq_ok]
    simp only [List.mapM_eq_ok_iff, Config.approvalFor_eq_ok_iff]
    exact exists_congr fun needed => and_congr_right' eq_comm
  · cases checked : c.checkMinimums s with
    | error e' =>
      rw [Config.approvals_of_unchecked checked] at failed ⊢
      exact failed
    | ok u =>
      rw [Config.approvals_of_checked checked, Except.map_eq_error] at failed ⊢
      exact Config.mapM_approvalFor_error failed
  · cases checked : c.checkMinimums s with
    | error e =>
      rw [Config.approvals_of_unchecked checked] at made
      cases made
    | ok u =>
      rw [Config.approvals_of_checked checked, Except.map_eq_ok] at made
      obtain ⟨needed, built, rfl⟩ := made
      obtain ⟨needed', built', fewer⟩ := Config.mapM_approvalFor_raised raised built
      exact ⟨_, by rw [Config.approvals_of_checked checked, built']; rfl, fewer⟩
  · rw [Config.generateApprovals_run, read]

/-- On `oneFieldOneToken`, a deposit of `3` of `t` with no allowance read needs one approval, of
the whole `3` to the orderbook, sent to the token; with an allowance of `3` it needs none. -/
theorem unit_deposit_approval_follows_allowance :
    let s : State := { deposits := [⟨"t", Address.zero, "3"⟩] }
    oneFieldOneToken.checkMinimums s = .ok () ∧
    oneFieldOneToken.approvals s [] = .ok [⟨Address.zero, "approve t",
      callData (selector "approve(address,uint256)") [.address oneFieldOneToken.orderbook, .uint 3]⟩] ∧
    oneFieldOneToken.approvals s [⟨Address.zero, 3⟩] = .ok [] := by
  intro s
  have checked : oneFieldOneToken.checkMinimums s = .ok () := by decide
  have amount : parseUnits "3" unitToken.decimals = .ok 3 := by decide
  refine ⟨checked, ?_, ?_⟩
  · exact ((Config.approvals_cover_shortfalls oneFieldOneToken s []).2.1 checked).2 _ |>.mpr
      ⟨[some _], .cons ⟨unitToken, 3, oneFieldOneToken_depositToken, amount, rfl⟩ .nil, rfl⟩
  · exact ((Config.approvals_cover_shortfalls oneFieldOneToken s
      [⟨Address.zero, 3⟩]).2.1 checked).2 _ |>.mpr
      ⟨[none], .cons ⟨unitToken, 3, oneFieldOneToken_depositToken, amount, rfl⟩ .nil, rfl⟩

end StrategyDeploy.Deployment

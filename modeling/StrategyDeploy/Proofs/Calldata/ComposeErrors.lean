import StrategyDeploy.Proofs.Calldata.Reads
import StrategyDeploy.Proofs.Calldata.Multicall

/-! Composition errors and the reads made before them. -/
namespace StrategyDeploy.Deployment

open StrategyDeploy.Calldata StrategyDeploy.Reader StrategyDeploy.Evm StrategyDeploy.Expression
open StrategyDeploy.Session

/-- The order's entrypoints compose to a text, resolving it succeeds after the resolution calls,
the expression has a post task, and composing the post task fails with `e`. -/
def Config.PostTaskComposeFails (c : Config) (r : Reader) (s : State) (e : ComposeError)
    (log log' : List Call) : Prop :=
  ∃ text resolved, c.expression.compose (c.bindingsFor s) orderEntrypoints = .ok text ∧
    (resolve r c.deployer text).run.run log = (.ok resolved, log') ∧
    log' = log ++ delivered r (resolutionCalls c.deployer resolved.parser text) ∧
    c.expression.hasEntrypoint postTaskEntrypoint = true ∧
    c.expression.compose (c.bindingsFor s) [postTaskEntrypoint] = .error e

variable {c : Config} {r : Reader} {s : State} {salt : Salt} {log log' : List Call}
  {e : ComposeError}

theorem Config.buildAddOrder_compose_error
    (h : ((c.buildAddOrder r s salt).run.run log).1 = .error (.compose e)) :
    (c.expression.compose (c.bindingsFor s) orderEntrypoints = .error e ∧
        ((c.buildAddOrder r s salt).run.run log).2 = log) ∨
      c.PostTaskComposeFails r s e log ((c.buildAddOrder r s salt).run.run log).2 := by
  rw [Config.buildAddOrder_run] at h ⊢
  cases ho : c.expression.compose (c.bindingsFor s) orderEntrypoints with
  | error e' =>
    rw [ho] at h
    cases h
    exact .inl ⟨rfl, rfl⟩
  | ok text =>
    rw [ho] at h
    simp only at h ⊢
    cases hr : (resolve r c.deployer text).run.run log with
    | mk res log₁ =>
      rw [hr] at h
      cases res with
      | error e' =>
        cases h
        obtain ⟨_, _, _, impossible⟩ := resolve_run_error hr
        cases impossible
      | ok resolved =>
        simp only at h ⊢
        have calls := (resolve_run_ok_iff.mp hr).2.2.2.2
        by_cases post : c.expression.hasEntrypoint postTaskEntrypoint
        · simp only [post, if_true] at h ⊢
          cases hp : c.expression.compose (c.bindingsFor s) [postTaskEntrypoint] with
          | error e' =>
            rw [hp] at h
            cases h
            exact .inr ⟨text, resolved, ho, hr, calls, post, hp⟩
          | ok postText =>
            rw [hp] at h
            simp only at h
            cases hq : (reparse r c.deployer resolved postText).run.run log₁ with
            | mk res' log₂ =>
              rw [hq] at h
              cases res' with
              | error e' =>
                cases h
                obtain ⟨_, _, impossible⟩ := reparse_run_error hq
                cases impossible
              | ok task => cases h
        · simp only [post, Bool.false_eq_true, if_false] at h
          cases h

theorem Config.buildAddOrder_of_postTaskComposeFails (h : c.PostTaskComposeFails r s e log log') :
    (c.buildAddOrder r s salt).run.run log = (.error (.compose e), log') := by
  obtain ⟨text, resolved, ho, hr, -, post, hp⟩ := h
  rw [Config.buildAddOrder_run, ho]
  simp only [hr, post, if_true, hp]

/-- A composition error from the order, or from the multicall that bundles deposits with it,
leaves the reader without a call, unless it is the post task's: then the order's entrypoints
composed, the resolution calls were made and answered, and only then did composing the post task
fail. Conversely, once the minimums (for the multicall, the deposits) pass, a post task whose
composition fails after a successful resolution fails both compilations with that error, after
the resolution calls. -/
theorem Config.compose_error_reads_only_for_post_task (c : Config) (r : Reader) (s : State)
    (salt : Salt) (log : List Call) (e : ComposeError) :
    let order := (c.addOrder r s salt).run.run log
    let bundle := (c.multicall r s salt).run.run log
    (order.1 = .error (.compose e) →
      order.2 = log ∨ c.checkMinimums s = .ok () ∧ c.PostTaskComposeFails r s e log order.2) ∧
    (bundle.1 = .error (.compose e) →
      bundle.2 = log ∨
        (∃ ds, c.depositCalls s = .ok ds) ∧ c.PostTaskComposeFails r s e log bundle.2) ∧
    (∀ log', c.checkMinimums s = .ok () → c.PostTaskComposeFails r s e log log' →
      order = (.error (.compose e), log')) ∧
    (∀ log' ds, c.depositCalls s = .ok ds → c.PostTaskComposeFails r s e log log' →
      bundle = (.error (.compose e), log')) := by
  intro order bundle
  have alone : order.1 = .error (.compose e) →
      order.2 = log ∨ c.checkMinimums s = .ok () ∧ c.PostTaskComposeFails r s e log order.2 := by
    intro failed
    cases checked : c.checkMinimums s with
    | error e' => exact .inl (by simp only [order, Config.addOrder_run_of_unchecked log checked])
    | ok u =>
      have same : order = (c.buildAddOrder r s salt).run.run log :=
        Config.addOrder_run_of_checked log checked
      rw [same] at failed ⊢
      rcases Config.buildAddOrder_compose_error failed with ⟨-, unchanged⟩ | late
      · exact .inl unchanged
      · exact .inr ⟨rfl, late⟩
  refine ⟨alone, ?_, ?_, ?_⟩
  · intro failed
    cases deposits : c.depositCalls s with
    | error e' => exact .inl (by simp only [bundle, Config.multicall_run_of_error log deposits])
    | ok ds =>
      have same : (c.multicall r s salt).run.run log = _ := Config.multicall_run_of_ok log deposits
      simp only [bundle, same] at failed ⊢
      rcases alone (Except.map_eq_error.mp failed) with unchanged | ⟨-, late⟩
      · exact .inl unchanged
      · exact .inr ⟨⟨ds, rfl⟩, late⟩
  · intro log' checked late
    simp only [order]
    rw [Config.addOrder_run_of_checked log checked]
    exact Config.buildAddOrder_of_postTaskComposeFails late
  · intro log' ds deposits late
    have checked := ((c.depositCalls_eq_ok s).mp deposits).1
    simp only [bundle]
    rw [Config.multicall_run_of_ok log deposits, Config.addOrder_run_of_checked log checked,
      Config.buildAddOrder_of_postTaskComposeFails late]
    rfl

/-- An expression with an elided binding `price` that only its post task refers to. -/
def postTaskPriced : Expression :=
  ⟨[⟨"price", .elided "Set a price"⟩, ⟨"calculate-io", .code "_ _: 0 0;"⟩,
    ⟨"handle-io", .code ":;"⟩, ⟨"handle-add-order", .code ":set(price 1);"⟩]⟩

/-- A deployment of `postTaskPriced` with no fields or deposits, deployed through the zero
address. -/
def postTaskPricedDeployment : Config where
  deployment := "d"
  name := ""
  description := ""
  guiName := ""
  guiDescription := ""
  fields := []
  deposits := []
  fieldIndex := {}
  depositIndex := {}
  tokens := []
  network := ⟨"", "", 0⟩
  orderbook := Address.zero
  deployer := Address.zero
  inputs := []
  outputs := []
  scenarioBindings := []
  expression := postTaskPriced
  fingerprint := default
  fieldIndex_indexes := NameIndex.indexes_empty
  depositIndex_indexes := NameIndex.indexes_empty

/-- The order's entrypoints of `postTaskPriced`, composed. -/
def pricedOrderText : String := "/* 0. calculate-io */ \n_ _: 0 0;\n\n/* 1. handle-io */ \n:;"

/-- The parser the deployer points at. -/
def pricedParser : Address := ⟨List.replicate 20 0x33, by simp⟩

/-- A node whose deployer answers every call with the parser's address and whose other contracts
answer with an empty byte string. -/
def pricedNode : Reader where
  answer call :=
    if call.target = Address.zero then .ok (numberWord pricedParser.toNat)
    else .ok (AbiValue.tuple [.bytes []]).encode
  delivers := true

/-- Adding the order of `postTaskPriced` with no value for `price` fails with the composition
error of the unbound binding, after four calls reached the node. -/
theorem post_task_binding_fails_after_reads :
    let run := (postTaskPricedDeployment.addOrder pricedNode {} ⟨default, default⟩).run.run []
    run.1 = .error (.compose (.unboundBinding "price" "Set a price")) ∧ run.2.length = 4 := by
  intro run
  have deployer : ∀ step, stepValue step Address.zero decodeAddressReturn
      (pricedNode.answer (stepCall step Address.zero [])) = .ok pricedParser :=
    fun _ => stepValue_of_decode (by decide)
  have parser : stepValue .bytecode pricedParser decodeBytesReturn
      (pricedNode.answer (stepCall .bytecode pricedParser [.bytes pricedOrderText.toUTF8.toList])) =
        .ok [] := by
    simp only [pricedNode, stepCall, if_neg (by decide : pricedParser ≠ Address.zero)]
    exact stepValue_of_decode (by decide)
  have resolved : (resolve pricedNode Address.zero pricedOrderText).run.run [] =
      (.ok ⟨pricedParser, pricedParser, pricedParser, []⟩,
        [] ++ delivered pricedNode (resolutionCalls Address.zero pricedParser pricedOrderText)) :=
    resolve_run_of_answers (deployer _) (deployer _) (deployer _) parser
  have late : postTaskPricedDeployment.PostTaskComposeFails pricedNode {}
      (.unboundBinding "price" "Set a price") []
      ([] ++ delivered pricedNode (resolutionCalls Address.zero pricedParser pricedOrderText)) :=
    ⟨_, _, by decide, resolved, rfl, by decide, by decide⟩
  have failed : run = (.error (.compose (.unboundBinding "price" "Set a price")),
      [] ++ delivered pricedNode (resolutionCalls Address.zero pricedParser pricedOrderText)) := by
    simp only [run]
    rw [Config.addOrder_run_of_checked _ rfl]
    exact Config.buildAddOrder_of_postTaskComposeFails late
  rw [failed]
  exact ⟨rfl, rfl⟩

end StrategyDeploy.Deployment

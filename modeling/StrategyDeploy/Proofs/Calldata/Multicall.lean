import StrategyDeploy.Calldata.Compile
import StrategyDeploy.Proofs.Except
import StrategyDeploy.Proofs.Evm.Decoding
import StrategyDeploy.Proofs.Deployment.Fingerprint

/-! The multicall that makes the deposits and adds the order. -/
namespace StrategyDeploy.Calldata

open StrategyDeploy.Evm StrategyDeploy.Bytes

/-- One call of a multicall: the contract, whether the call may fail, and its call data. -/
structure Call3 where
  target : Address
  allowFailure : Bool
  callData : List UInt8
  deriving DecidableEq, Repr

/-- A call as the ABI tuple `(address,bool,bytes)`. -/
def Call3.toAbi (c : Call3) : AbiValue :=
  .tuple [.address c.target, .bool c.allowFailure, .bytes c.callData]

/-- The call whose tuple starts at `pos`; its call data lies at the offset that the third word
gives, counted from `pos`. -/
def call3At? (data : List UInt8) (pos : Nat) : Option Call3 := do
  let target ← addressAt? data pos
  let allowFailure ← boolAt? data (pos + 32)
  let offset ← wordAt? data (pos + 64)
  let callData ← bytesAt? data (pos + offset)
  return ⟨target, allowFailure, callData⟩

/-- The calls that `aggregate3` call data makes: the selector, then the offset of the array of
calls within the arguments. -/
def decodeAggregate3? (data : List UInt8) : Option (List Call3) :=
  if data.take 4 = selector aggregate3Signature then do
    let args := data.drop 4
    let offset ← wordAt? args 0
    arrayAt? call3At? args offset
  else none

section Decoding

theorem Call3.isDynamic_toAbi (c : Call3) : c.toAbi.isDynamic = true := by
  simp [Call3.toAbi, AbiValue.isDynamic, AbiValue.anyDynamic]

theorem Call3.encode_toAbi (c : Call3) :
    c.toAbi.encode = numberWord c.target.toNat ++ numberWord (if c.allowFailure then 1 else 0) ++
      numberWord 96 ++ (numberWord c.callData.length ++ padToWords c.callData) := by
  simp [Call3.toAbi, AbiValue.encode, encodeAll_eq_map, assemble_eq, headSize, headsFrom, tailsOf,
    AbiValue.isDynamic]

variable {data : List UInt8}

theorem call3At?_of_standsAt (hsize : data.length < 2 ^ 256) {c : Call3} {pos : Nat}
    (h : StandsAt ⟨data.toArray⟩ pos c.toAbi.encode) : call3At? data pos = some c := by
  rw [Call3.encode_toAbi] at h
  have target := addressAt?_of_standsAt h.left.left.left
  have flag := boolAt?_of_standsAt h.left.left.right
  have offset := wordAt?_of_standsAt (by decide) h.left.right
  have tail := h.right
  rw [padToWords, ← List.append_assoc] at tail
  have payload := bytesAt?_of_standsAt hsize tail.left
  simp only [length_numberWord, List.length_append, Nat.add_assoc] at target flag offset payload
  simp [call3At?, target, flag, offset, payload]

theorem length_selector (signature : String) : (selector signature).length = 4 := by
  simp [selector, Deployment.length_keccak256]

end Decoding

end StrategyDeploy.Calldata

namespace StrategyDeploy.Deployment

open StrategyDeploy.Calldata StrategyDeploy.Evm StrategyDeploy.Bytes StrategyDeploy.Reader
open StrategyDeploy.Session

theorem Config.aggregate_data (c : Config) (calls : List Calldata) :
    (c.aggregate calls).data = selector aggregate3Signature ++
      (numberWord 32 ++ (AbiValue.array ((calls.map fun call =>
        (⟨c.orderbook, false, call.data⟩ : Call3)).map Call3.toAbi)).encode) := by
  simp [Config.aggregate, callData, AbiValue.encode, encodeAll_eq_map, assemble_eq, headSize,
    headsFrom, tailsOf, AbiValue.isDynamic, Call3.toAbi, Function.comp_def]

theorem Config.decodeAggregate3?_aggregate (c : Config) (calls : List Calldata)
    (hsize : (c.aggregate calls).data.length < 2 ^ 256) :
    decodeAggregate3? (c.aggregate calls).data =
      some (calls.map fun call => ⟨c.orderbook, false, call.data⟩) := by
  rw [Config.aggregate_data] at hsize ⊢
  set args := numberWord 32 ++ (AbiValue.array ((calls.map fun call =>
    (⟨c.orderbook, false, call.data⟩ : Call3)).map Call3.toAbi)).encode
  have front : (selector aggregate3Signature ++ args).take 4 = selector aggregate3Signature := by
    rw [List.take_left' (length_selector _)]
  have rest : (selector aggregate3Signature ++ args).drop 4 = args := by
    rw [List.drop_left' (length_selector _)]
  have short : args.length < 2 ^ 256 := by
    rw [List.length_append] at hsize
    omega
  have whole : StandsAt ⟨args.toArray⟩ 0 args := standsAt_mk args
  have offset := wordAt?_of_standsAt (by decide) whole.left
  have calls_at := arrayAt?_of_standsAt short Call3.isDynamic_toAbi
    (fun _ _ h => call3At?_of_standsAt short h) whole.right
  simp only [length_numberWord, Nat.zero_add] at calls_at
  simp [decodeAggregate3?, front, rest, offset, calls_at]

section Run

theorem lift_run {α : Type} (x : Except CalldataError α) :
    (lift x).run = (pure x : Reads (Except CalldataError α)) := by
  cases x <;> rfl

variable (c : Config) (r : Reader) (s : State) (salt : Salt)

theorem Config.depositCalls_eq_ok {ds : List Calldata} :
    c.depositCalls s = .ok ds ↔ c.checkMinimums s = .ok () ∧ s.deposits.mapM c.depositFor = .ok ds := by
  unfold Config.depositCalls
  rw [Except.bind_eq_ok]
  constructor
  · rintro ⟨⟨⟩, checked, made⟩
    exact ⟨checked, made⟩
  · rintro ⟨checked, made⟩
    exact ⟨(), checked, made⟩

theorem Config.addOrder_run :
    (c.addOrder r s salt).run = match c.checkMinimums s with
      | .error e => pure (.error e)
      | .ok () => (c.buildAddOrder r s salt).run := by
  unfold Config.addOrder
  simp only [ExceptT.run_bind, lift_run, pure_bind]
  cases c.checkMinimums s with
  | error e => rfl
  | ok u => rfl

theorem Config.multicall_run :
    (c.multicall r s salt).run = match c.depositCalls s with
      | .error e => pure (.error e)
      | .ok deposits => (fun res => (fun order => c.aggregate (deposits ++ [order])) <$> res) <$>
          (c.buildAddOrder r s salt).run := by
  unfold Config.multicall
  simp only [ExceptT.run_bind, lift_run, pure_bind]
  cases c.depositCalls s with
  | error e => rfl
  | ok deposits =>
      simp only [map_eq_pure_bind]
      congr
      funext res
      cases res <;> rfl

variable {c r s salt} (log : List Call)

theorem Config.addOrder_run_of_checked (checked : c.checkMinimums s = .ok ()) :
    (c.addOrder r s salt).run.run log = (c.buildAddOrder r s salt).run.run log := by
  rw [Config.addOrder_run, checked]

theorem Config.addOrder_run_of_unchecked {e : CalldataError} (failed : c.checkMinimums s = .error e) :
    (c.addOrder r s salt).run.run log = (.error e, log) := by
  rw [Config.addOrder_run, failed]
  rfl

theorem Config.multicall_run_of_error {e : CalldataError} (h : c.depositCalls s = .error e) :
    (c.multicall r s salt).run.run log = (.error e, log) := by
  rw [Config.multicall_run, h]
  rfl

theorem Config.multicall_run_of_ok {deposits : List Calldata} (h : c.depositCalls s = .ok deposits) :
    (c.multicall r s salt).run.run log =
      ((fun order => c.aggregate (deposits ++ [order])) <$> ((c.addOrder r s salt).run.run log).1,
        ((c.addOrder r s salt).run.run log).2) := by
  have checked := ((c.depositCalls_eq_ok s).mp h).1
  rw [Config.multicall_run, h, Config.addOrder_run, checked]
  rfl

/-- Bundling deposits and the order is compiling them one after the other. The multicall
succeeds exactly when the deposits and the order compile alone; it then goes to the orderbook,
and read back it makes one call per deposit, in order, and then the order, all to the orderbook
and none allowed to fail. When the deposits fail the multicall fails with their error before any
read; otherwise it makes the order's reads and fails exactly as the order does. -/
theorem Config.multicall_bundles_deposits_then_order (c : Config) (r : Reader) (s : State)
    (salt : Salt) (log : List Call) :
    let bundled := (c.multicall r s salt).run.run log
    let order := (c.addOrder r s salt).run.run log
    ((∃ m, bundled.1 = .ok m) ↔ (∃ ds, c.depositCalls s = .ok ds) ∧ ∃ o, order.1 = .ok o) ∧
    (∀ m, bundled.1 = .ok m → m.target = c.orderbook ∧
      ∃ ds o, c.depositCalls s = .ok ds ∧ order.1 = .ok o ∧ ds.length = s.deposits.length ∧
        (m.data.length < 2 ^ 256 →
          decodeAggregate3? m.data = some ((ds ++ [o]).map fun d => ⟨c.orderbook, false, d.data⟩))) ∧
    (∀ e, c.depositCalls s = .error e → bundled = (.error e, log)) ∧
    (∀ ds, c.depositCalls s = .ok ds →
      bundled.2 = order.2 ∧ ∀ e, bundled.1 = .error e ↔ order.1 = .error e) := by
  intro bundled order
  cases deposits : c.depositCalls s with
  | error e =>
      have run : bundled = (.error e, log) := Config.multicall_run_of_error log deposits
      refine ⟨?_, ?_, ?_, ?_⟩
      · simp [run]
      · intro m failed
        simp [run] at failed
      · rintro e' ⟨⟩
        exact run
      · rintro ds ⟨⟩
  | ok ds =>
      have run : bundled = ((fun o => c.aggregate (ds ++ [o])) <$> order.1, order.2) :=
        Config.multicall_run_of_ok log deposits
      have count : ds.length = s.deposits.length :=
        (List.mapM_eq_ok_iff.mp ((c.depositCalls_eq_ok s).mp deposits).2).length_eq.symm
      refine ⟨?_, ?_, ?_, ?_⟩
      · constructor
        · rintro ⟨m, made⟩
          rw [run] at made
          obtain ⟨o, compiled, -⟩ := Except.map_eq_ok.mp made
          exact ⟨⟨ds, rfl⟩, o, compiled⟩
        · rintro ⟨-, o, compiled⟩
          exact ⟨c.aggregate (ds ++ [o]), by rw [run]; exact Except.map_eq_ok.mpr ⟨o, compiled, rfl⟩⟩
      · intro m made
        rw [run] at made
        obtain ⟨o, compiled, rfl⟩ := Except.map_eq_ok.mp made
        exact ⟨rfl, ds, o, rfl, compiled, count, c.decodeAggregate3?_aggregate (ds ++ [o])⟩
      · rintro e ⟨⟩
      · rintro ds' ⟨⟩
        refine ⟨by rw [run], fun e => ?_⟩
        rw [run]
        exact Except.map_eq_error

end Run

end StrategyDeploy.Deployment

import StrategyDeploy.Proofs.Calldata.AcceptedUpdates
import StrategyDeploy.Proofs.Evm.OrderBook
import StrategyDeploy.Proofs.Amount.Units

/-! What the deposits compile to. -/
namespace StrategyDeploy.Calldata

open StrategyDeploy.Evm StrategyDeploy.Bytes

/-- The token, vault id, amount and tasks of `deposit2` call data: the selector, then the words
of the token, the vault id and the amount, and the offset of the tasks. -/
def decodeDeposit2? (data : List UInt8) : Option (Address × Nat × Nat × List TaskV1) :=
  if data.take 4 = selector depositSignature then do
    let args := data.drop 4
    let token ← addressAt? args 0
    let vaultId ← wordAt? args 32
    let amount ← wordAt? args 64
    let tasksOffset ← wordAt? args 96
    let tasks ← arrayAt? taskAt? args tasksOffset
    return (token, vaultId, amount, tasks)
  else none

theorem encode_deposit_args (token : Address) (vault amount : Nat) :
    (AbiValue.tuple [.address token, .uint vault, .uint amount, .array []]).encode =
      numberWord token.toNat ++ numberWord vault ++ numberWord amount ++ numberWord 128 ++
        numberWord 0 := by
  simp [AbiValue.encode, encodeAll_eq_map, assemble_eq, headSize, headsFrom, tailsOf,
    AbiValue.isDynamic]

theorem decodeDeposit2?_callData {token : Address} {vault amount : Nat} (hvault : vault < 2 ^ 256)
    (hamount : amount < 2 ^ 256) :
    decodeDeposit2? (callData (selector depositSignature)
      [.address token, .uint vault, .uint amount, .array []]) = some (token, vault, amount, []) := by
  rw [callData, encode_deposit_args]
  generalize layout : numberWord token.toNat ++ numberWord vault ++ numberWord amount ++
    numberWord 128 ++ numberWord 0 = args
  have whole : StandsAt ⟨args.toArray⟩ 0 (numberWord token.toNat ++ numberWord vault ++
      numberWord amount ++ numberWord 128 ++ numberWord 0) :=
    layout ▸ standsAt_mk args
  have front : (selector depositSignature ++ args).take 4 = selector depositSignature :=
    List.take_left' (length_selector _)
  have rest : (selector depositSignature ++ args).drop 4 = args :=
    List.drop_left' (length_selector _)
  have token' : addressAt? args 0 = some token := addressAt?_of_standsAt whole.left.left.left.left
  have vault' : wordAt? args 32 = some vault :=
    wordAt?_of_standsAt hvault (whole.left.left.left.right.at (by simp))
  have amount' : wordAt? args 64 = some amount :=
    wordAt?_of_standsAt hamount (whole.left.left.right.at (by simp))
  have offset : wordAt? args 96 = some 128 :=
    wordAt?_of_standsAt (by decide) (whole.left.right.at (by simp))
  have tasks : arrayAt? taskAt? args 128 = some [] := arrayAt?_nil (whole.right.at (by simp))
  simp [decodeDeposit2?, front, rest, token', vault', amount', offset, tasks]

end StrategyDeploy.Calldata

namespace StrategyDeploy.Deployment

open StrategyDeploy.Evm StrategyDeploy.Amount StrategyDeploy.Calldata StrategyDeploy.Session

variable {c : Config} {d : Deposit}

theorem Config.vaultIdFor?_eq_or (c : Config) (token : String) :
    c.vaultIdFor? token = ((c.outputs.find? (·.token.key == token)).map (·.vaultId)).or
      ((c.inputs.find? (·.token.key == token)).map (·.vaultId)) := by
  unfold Config.vaultIdFor?
  rw [List.find?_append]
  cases c.outputs.find? (·.token.key == token) <;> rfl

theorem Config.vaultIdFor?_mem {token : String} {vault : Nat} (h : c.vaultIdFor? token = some vault) :
    ∃ v ∈ c.outputs ++ c.inputs, v.vaultId = vault := by
  obtain ⟨v, found, rfl⟩ := Option.map_eq_some_iff.mp h
  exact ⟨v, List.mem_of_find?_eq_some found, rfl⟩

theorem Config.amountOf_eq_ok_iff {p : TokenInfo × Nat} :
    c.amountOf d = .ok p ↔ ∃ tk amount, c.depositToken d.token = .ok tk ∧
      parseUnits d.amount tk.decimals = .ok amount ∧ p = (tk, amount) := by
  unfold Config.amountOf Config.tokenOf
  cases htk : c.depositToken d.token with
  | error e => simp [Except.mapError, bind, Except.bind]
  | ok tk =>
    cases hamt : parseUnits d.amount tk.decimals <;>
      simp [hamt, Except.mapError, bind, Except.bind, pure, Except.pure, eq_comm]

theorem Config.amountOf_eq_error_iff {e : CalldataError} :
    c.amountOf d = .error e ↔
      (∃ be, c.depositToken d.token = .error be ∧ e = .binding be) ∨
        ∃ tk ue, c.depositToken d.token = .ok tk ∧ parseUnits d.amount tk.decimals = .error ue ∧
          e = .encoding ue := by
  unfold Config.amountOf Config.tokenOf
  cases htk : c.depositToken d.token with
  | error e => simp [Except.mapError, bind, Except.bind, eq_comm]
  | ok tk =>
    cases hamt : parseUnits d.amount tk.decimals <;>
      simp [hamt, Except.mapError, bind, Except.bind, pure, Except.pure, eq_comm]

theorem Config.depositFor_eq_error_iff {e : CalldataError} :
    c.depositFor d = .error e ↔
      (∃ be, c.depositToken d.token = .error be ∧ e = .binding be) ∨
      (∃ tk ue, c.depositToken d.token = .ok tk ∧ parseUnits d.amount tk.decimals = .error ue ∧
        e = .encoding ue) ∨
      ∃ tk amount, c.depositToken d.token = .ok tk ∧ parseUnits d.amount tk.decimals = .ok amount ∧
        c.vaultIdFor? d.token = none ∧ e = .vaultIdMissing d.token := by
  unfold Config.depositFor Config.amountOf Config.tokenOf
  cases htk : c.depositToken d.token with
  | error e => simp [Except.mapError, bind, Except.bind, eq_comm]
  | ok tk =>
    cases hamt : parseUnits d.amount tk.decimals with
    | error e => simp [hamt, Except.mapError, bind, Except.bind, eq_comm]
    | ok amount =>
      cases hv : c.vaultIdFor? d.token <;>
        simp [hamt, Except.mapError, bind, Except.bind, pure, Except.pure, throw, throwThe,
          MonadExceptOf.throw, eq_comm]

variable {s : State}

theorem Config.depositCalls_of_checked (checked : c.checkMinimums s = .ok ()) :
    c.depositCalls s = s.deposits.mapM c.depositFor := by
  unfold Config.depositCalls
  rw [Except.bind_of_ok checked]

theorem Config.depositCalls_of_unchecked {e : CalldataError} (failed : c.checkMinimums s = .error e) :
    c.depositCalls s = .error e := by
  unfold Config.depositCalls
  rw [Except.bind_of_error failed]

/-- Compiling the deposits checks the minimums, then compiles one call per deposit, in store order:
each goes to the orderbook, is labelled with its token, and read back as the order book reads
`deposit2` gives the token's address, the vault id of the token's first output vault (else of its
first input vault) and the amount read at the token's decimals, with no tasks. It succeeds when
every deposit has a token, an amount that reads and a vault; otherwise the first deposit without
one fails it, as its token is missing, else its amount does not read, else it has no vault. -/
theorem Config.deposits_compile_in_store_order (c : Config) (s : State)
    (fits : ∀ v ∈ c.outputs ++ c.inputs, v.vaultId < 2 ^ 256) :
    ((∃ calls, c.depositCalls s = .ok calls) ↔ c.checkMinimums s = .ok () ∧
      ∀ d ∈ s.deposits, ∃ tk amount vault, c.depositToken d.token = .ok tk ∧
        parseUnits d.amount tk.decimals = .ok amount ∧ c.vaultIdFor? d.token = some vault) ∧
    (∀ calls, c.depositCalls s = .ok calls →
      List.Forall₂ (fun d call => ∃ tk amount vault, c.depositToken d.token = .ok tk ∧
          parseUnits d.amount tk.decimals = .ok amount ∧ c.vaultIdFor? d.token = some vault ∧
          call.target = c.orderbook ∧ call.label = s!"deposit {d.token}" ∧
          decodeDeposit2? call.data = some (tk.address, vault, amount, []))
        s.deposits calls) ∧
    (∀ e, c.checkMinimums s = .error e → c.depositCalls s = .error e) ∧
    (c.checkMinimums s = .ok () → ∀ e, c.depositCalls s = .error e ↔
      ∃ pre d post, s.deposits = pre ++ d :: post ∧ (∀ d' ∈ pre, ∃ call, c.depositFor d' = .ok call) ∧
        ((∃ be, c.depositToken d.token = .error be ∧ e = .binding be) ∨
        (∃ tk ue, c.depositToken d.token = .ok tk ∧ parseUnits d.amount tk.decimals = .error ue ∧
          e = .encoding ue) ∨
        ∃ tk amount, c.depositToken d.token = .ok tk ∧ parseUnits d.amount tk.decimals = .ok amount ∧
          c.vaultIdFor? d.token = none ∧ e = .vaultIdMissing d.token)) := by
  refine ⟨⟨fun ⟨calls, made⟩ => ?_, fun ⟨checked, each⟩ => ?_⟩, fun calls made => ?_,
    fun e failed => Config.depositCalls_of_unchecked failed, fun checked e => ?_⟩
  · obtain ⟨checked, compiled⟩ := (Config.depositCalls_eq_ok c s).mp made
    refine ⟨checked, fun d member => ?_⟩
    obtain ⟨call, one⟩ := List.ok_of_mapM_eq_ok compiled d member
    obtain ⟨tk, amount, vault, htk, hamt, hv, -⟩ := Config.depositFor_eq_ok.mp one
    exact ⟨tk, amount, vault, htk, hamt, hv⟩
  · have compiles : ∀ d ∈ s.deposits, ∃ call, c.depositFor d = .ok call := by
      intro d member
      obtain ⟨tk, amount, vault, htk, hamt, hv⟩ := each d member
      exact ⟨_, Config.depositFor_eq_ok.mpr ⟨tk, amount, vault, htk, hamt, hv, rfl⟩⟩
    obtain ⟨calls, compiled⟩ := List.exists_mapM_eq_ok compiles
    exact ⟨calls, (Config.depositCalls_eq_ok c s).mpr ⟨checked, compiled⟩⟩
  · obtain ⟨-, compiled⟩ := (Config.depositCalls_eq_ok c s).mp made
    refine (List.mapM_eq_ok_iff.mp compiled).imp fun d call one => ?_
    obtain ⟨tk, amount, vault, htk, hamt, hv, rfl⟩ := Config.depositFor_eq_ok.mp one
    obtain ⟨v, listed, rfl⟩ := Config.vaultIdFor?_mem hv
    exact ⟨tk, amount, v.vaultId, htk, hamt, hv, rfl, rfl,
      decodeDeposit2?_callData (fits v listed) (parseUnits_lt_of_ok hamt)⟩
  · rw [Config.depositCalls_of_checked checked, List.mapM_eq_error_iff]
    simp only [Config.depositFor_eq_error_iff]


/-- A deposit of `3` of `unitToken` compiles to one call, which reads back as a deposit of the
token's address into vault `1`, of `3`. -/
theorem unit_deposit_reads_back :
    (∀ v ∈ oneFieldOneToken.outputs ++ oneFieldOneToken.inputs, v.vaultId < 2 ^ 256) ∧
    ∃ call, oneFieldOneToken.depositCalls { deposits := [⟨"t", Address.zero, "3"⟩] } = .ok [call] ∧
      decodeDeposit2? call.data = some (Address.zero, 1, 3, []) := by
  have fits : ∀ v ∈ oneFieldOneToken.outputs ++ oneFieldOneToken.inputs, v.vaultId < 2 ^ 256 := by
    decide
  have amount : parseUnits "3" unitToken.decimals = .ok 3 := by decide
  have compiled := Config.deposits_compile_in_store_order oneFieldOneToken
    { deposits := [⟨"t", Address.zero, "3"⟩] } fits
  obtain ⟨calls, made⟩ := compiled.1.mpr ⟨by decide, fun d member => by
    obtain rfl := List.mem_singleton.mp member
    exact ⟨unitToken, 3, 1, oneFieldOneToken_depositToken, amount, by decide⟩⟩
  obtain ⟨call, rfl⟩ : ∃ call, calls = [call] := by
    cases compiled.2.1 calls made with
    | cons _ rest => exact ⟨_, by cases rest; rfl⟩
  obtain ⟨tk, n, vault, htk, hamt, hv, -, -, decoded⟩ := List.forall₂_cons.mp (compiled.2.1 _ made) |>.1
  obtain rfl : tk = unitToken := Except.ok.inj (htk.symm.trans oneFieldOneToken_depositToken)
  obtain rfl : n = 3 := Except.ok.inj (hamt.symm.trans amount)
  obtain rfl : vault = 1 := Option.some.inj (hv.symm.trans (by decide))
  exact ⟨fits, call, made, decoded⟩

end StrategyDeploy.Deployment

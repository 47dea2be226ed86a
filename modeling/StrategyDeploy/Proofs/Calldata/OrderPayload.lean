import StrategyDeploy.Proofs.Evm.OrderBook
import StrategyDeploy.Proofs.Calldata.Reads
import StrategyDeploy.Proofs.Calldata.Multicall
import StrategyDeploy.Proofs.Calldata.AcceptedUpdates
import Mathlib.Data.List.Nodup

/-! What an added order carries. -/
namespace StrategyDeploy.Calldata

open StrategyDeploy.Evm StrategyDeploy.Bytes StrategyDeploy.Reader StrategyDeploy.Deployment

/-- The order configuration and tasks of `addOrder2` call data: the selector, then the offsets
of the configuration and of the array of tasks. -/
def decodeAddOrder2? (data : List UInt8) : Option (OrderConfigV3 × List TaskV1) :=
  if data.take 4 = selector addOrderSignature then do
    let args := data.drop 4
    let configOffset ← wordAt? args 0
    let config ← orderConfigAt? args configOffset
    let tasksOffset ← wordAt? args 32
    let tasks ← arrayAt? taskAt? args tasksOffset
    return (config, tasks)
  else none

/-- A resolved evaluable as the order book takes it. -/
def Evaluable.forOrderBook (e : Evaluable) : EvaluableV3 := ⟨e.interpreter, e.store, e.bytecode⟩

/-- A vault as the order book lists it: token address, decimals and vault id. -/
def vaultIO (v : Vault) : IO := ⟨v.token.address, v.token.decimals, v.vaultId⟩

/-- The deployer's answers decode as these interpreter, store and parser. -/
def Points (r : Reader) (deployer interpreter store parser : Address) : Prop :=
  stepValue .interpreter deployer decodeAddressReturn
      (r.answer (stepCall .interpreter deployer [])) = .ok interpreter ∧
    stepValue .store deployer decodeAddressReturn (r.answer (stepCall .store deployer [])) =
      .ok store ∧
    stepValue .parser deployer decodeAddressReturn (r.answer (stepCall .parser deployer [])) =
      .ok parser

/-- The parser's answer to the `parse2` read of a text decodes as this bytecode. -/
def Parses (r : Reader) (parser : Address) (text : String) (bytecode : List UInt8) : Prop :=
  stepValue .bytecode parser decodeBytesReturn
    (r.answer (stepCall .bytecode parser [.bytes text.toUTF8.toList])) = .ok bytecode

theorem encode_pair_dynamic {a b : AbiValue} (ha : a.isDynamic = true) (hb : b.isDynamic = true) :
    (AbiValue.tuple [a, b]).encode =
      numberWord 64 ++ numberWord (64 + a.encode.length) ++ a.encode ++ b.encode := by
  simp [AbiValue.encode, encodeAll_eq_map, assemble_eq, headSize, headsFrom, tailsOf, ha, hb]

theorem decodeAddOrder2?_callData {o : OrderConfigV3} {tasks : List TaskV1}
    (hvaults : ∀ v ∈ o.validInputs ++ o.validOutputs, v.decimals < 2 ^ 8 ∧ v.vaultId < 2 ^ 256)
    (hcontexts : ∀ t ∈ tasks, t.signedContext = [])
    (hsize : (callData (selector addOrderSignature)
      [o.toAbi, .array (tasks.map TaskV1.toAbi)]).length < 2 ^ 256) :
    decodeAddOrder2? (callData (selector addOrderSignature)
      [o.toAbi, .array (tasks.map TaskV1.toAbi)]) = some (o, tasks) := by
  have config_dynamic : o.toAbi.isDynamic = true := by
    simp [OrderConfigV3.toAbi, AbiValue.isDynamic, AbiValue.anyDynamic,
      EvaluableV3.isDynamic_toAbi]
  rw [callData, encode_pair_dynamic config_dynamic rfl] at hsize ⊢
  generalize layout : numberWord 64 ++ numberWord (64 + o.toAbi.encode.length) ++ o.toAbi.encode ++
    (AbiValue.array (tasks.map TaskV1.toAbi)).encode = args at hsize ⊢
  have short : args.length < 2 ^ 256 := by
    rw [List.length_append] at hsize
    omega
  have front : (selector addOrderSignature ++ args).take 4 = selector addOrderSignature :=
    List.take_left' (length_selector _)
  have rest : (selector addOrderSignature ++ args).drop 4 = args :=
    List.drop_left' (length_selector _)
  have whole : StandsAt ⟨args.toArray⟩ 0 (numberWord 64 ++ numberWord (64 + o.toAbi.encode.length) ++
      o.toAbi.encode ++ (AbiValue.array (tasks.map TaskV1.toAbi)).encode) :=
    layout ▸ standsAt_mk args
  have fits := whole.lt_of_length_lt short
  simp only [List.length_append, length_numberWord] at fits
  have configOffset : wordAt? args 0 = some 64 :=
    wordAt?_of_standsAt (by decide) whole.left.left.left
  have tasksOffset : wordAt? args 32 = some (64 + o.toAbi.encode.length) :=
    wordAt?_of_standsAt (by omega) (whole.left.left.right.at (by simp))
  have config : orderConfigAt? args 64 = some o :=
    orderConfigAt?_of_standsAt short hvaults (whole.left.right.at (by simp))
  have item : ∀ t ∈ tasks, ∀ p, StandsAt ⟨args.toArray⟩ p t.toAbi.encode →
      taskAt? args p = some t := by
    rintro ⟨e, contexts⟩ member p hp
    have none : contexts = [] := hcontexts _ member
    subst none
    exact taskAt?_of_standsAt short hp
  have read : arrayAt? taskAt? args (64 + o.toAbi.encode.length) = some tasks :=
    arrayAt?_of_mem_standsAt short TaskV1.isDynamic_toAbi item (whole.right.at (by simp; omega))
  simp [decodeAddOrder2?, front, rest, configOffset, config, tasksOffset, read]

end StrategyDeploy.Calldata

namespace StrategyDeploy.Deployment

open StrategyDeploy.Calldata StrategyDeploy.Evm StrategyDeploy.Bytes StrategyDeploy.Reader
open StrategyDeploy.Expression StrategyDeploy.Meta StrategyDeploy.Session

theorem Config.bindingsFor_get? (c : Config) {s : State}
    (unique : (s.fields.map (·.binding)).Nodup) (name : String) :
    (c.bindingsFor s).get? name = (s.fieldValue? name).or (Bindings.get? c.scenarioBindings name) := by
  have once : (s.fields.filter (·.binding == name)).length ≤ 1 := by
    have count := List.nodup_iff_count_le_one.mp unique name
    rwa [List.count_eq_countP, List.countP_map, List.countP_eq_length_filter] at count
  rw [Bindings.get?_eq_getLast?, Config.bindingsFor, List.filter_append, State.filter_bindings,
    Bindings.get?_eq_getLast? c.scenarioBindings, State.fieldValue?, ← List.head?_filter]
  generalize s.fields.filter (·.binding == name) = picked at once ⊢
  rcases picked with _ | ⟨f, _ | ⟨g, rest⟩⟩
  · simp
  · simp
  · simp at once

theorem Config.orderCall_data (c : Config) (salt : Salt) (text : String) (resolved : Evaluable)
    (tasks : List Evaluable) :
    (c.orderCall salt text resolved (tasks.map postTask)).data =
      callData (selector addOrderSignature)
        [OrderConfigV3.toAbi ⟨resolved.forOrderBook, c.inputs.map vaultIO, c.outputs.map vaultIO,
          salt.nonce, salt.secret, sourceMeta text⟩,
        .array ((tasks.map fun t => (⟨t.forOrderBook, []⟩ : TaskV1)).map TaskV1.toAbi)] := by
  simp only [Config.orderCall, OrderConfigV3.toAbi, OrderConfigV3.inputsAbi,
    OrderConfigV3.outputsAbi, List.map_map]
  rfl

variable {c : Config} {r : Reader} {s : State} {salt : Salt} {log log' : List Call}

theorem Config.buildAddOrder_run_ok {call : Calldata}
    (made : (c.buildAddOrder r s salt).run.run log = (.ok call, log')) :
    ∃ text resolved, c.expression.compose (c.bindingsFor s) orderEntrypoints = .ok text ∧
      Points r c.deployer resolved.interpreter resolved.store resolved.parser ∧
      Parses r resolved.parser text resolved.bytecode ∧
      ((c.expression.hasEntrypoint postTaskEntrypoint = false ∧
          call = c.orderCall salt text resolved [] ∧
          log' = log ++ delivered r (resolutionCalls c.deployer resolved.parser text)) ∨
        (c.expression.hasEntrypoint postTaskEntrypoint = true ∧ ∃ post bytecode,
          c.expression.compose (c.bindingsFor s) [postTaskEntrypoint] = .ok post ∧
          Parses r resolved.parser post bytecode ∧
          call = c.orderCall salt text resolved [postTask { resolved with bytecode }] ∧
          log' = log ++ delivered r (resolutionCalls c.deployer resolved.parser text ++
            [stepCall .bytecode resolved.parser [.bytes post.toUTF8.toList]]))) := by
  rw [Config.buildAddOrder_run] at made
  cases composed : c.expression.compose (c.bindingsFor s) orderEntrypoints with
  | error e =>
    rw [composed] at made
    cases made
  | ok text =>
    rw [composed] at made
    dsimp only at made
    cases resolution : (resolve r c.deployer text).run.run log with
    | mk result log₁ =>
      rw [resolution] at made
      cases result with
      | error e => cases made
      | ok resolved =>
        dsimp only at made
        obtain ⟨interpreter, store, parser, bytecode, rfl⟩ := resolve_run_ok_iff.mp resolution
        refine ⟨text, resolved, rfl, ⟨interpreter, store, parser⟩, bytecode, ?_⟩
        by_cases post : c.expression.hasEntrypoint postTaskEntrypoint = true
        · right
          rw [if_pos post] at made
          cases postComposed : c.expression.compose (c.bindingsFor s) [postTaskEntrypoint] with
          | error e =>
            rw [postComposed] at made
            cases made
          | ok postText =>
            rw [postComposed] at made
            dsimp only at made
            rw [reparse_run] at made
            cases parsed : stepValue .bytecode resolved.parser decodeBytesReturn
                (r.answer (stepCall .bytecode resolved.parser [.bytes postText.toUTF8.toList])) with
            | error e =>
              rw [parsed] at made
              cases made
            | ok postBytecode =>
              rw [parsed] at made
              dsimp only [Functor.map, Except.map] at made
              cases made
              refine ⟨post, postText, postBytecode, rfl, parsed, rfl, ?_⟩
              simp [delivered_append]
        · left
          rw [if_neg post] at made
          cases made
          exact ⟨by simpa using post, rfl, rfl⟩

theorem Config.vaultIO_bounded (c : Config)
    (vaults : ∀ v ∈ c.inputs ++ c.outputs, v.token.decimals < 2 ^ 8 ∧ v.vaultId < 2 ^ 256) :
    ∀ v ∈ c.inputs.map vaultIO ++ c.outputs.map vaultIO, v.decimals < 2 ^ 8 ∧ v.vaultId < 2 ^ 256 := by
  intro v member
  rw [← List.map_append, List.mem_map] at member
  obtain ⟨w, listed, rfl⟩ := member
  exact vaults w listed

theorem Config.decodeAddOrder2?_orderCall (c : Config)
    (vaults : ∀ v ∈ c.inputs ++ c.outputs, v.token.decimals < 2 ^ 8 ∧ v.vaultId < 2 ^ 256)
    (salt : Salt) (text : String) (resolved : Evaluable) (tasks : List Evaluable)
    (hsize : (c.orderCall salt text resolved (tasks.map postTask)).data.length < 2 ^ 256) :
    decodeAddOrder2? (c.orderCall salt text resolved (tasks.map postTask)).data =
      some (⟨resolved.forOrderBook, c.inputs.map vaultIO, c.outputs.map vaultIO, salt.nonce,
        salt.secret, sourceMeta text⟩, tasks.map fun t => ⟨t.forOrderBook, []⟩) := by
  rw [c.orderCall_data] at hsize ⊢
  exact decodeAddOrder2?_callData (c.vaultIO_bounded vaults) (by simp) hsize

/-- A compiled order goes to the order book, and read back as the order book reads
`addOrder2` it is the order's configuration and its tasks. The configuration's evaluable is the
interpreter, store and parser the deployer answered and the bytecode the parser answered for the
text composed from the order's entrypoints, with the session's values over the scenario's
bindings; its meta document is that text's, its vaults are the order's inputs and outputs in
order, and its nonce and secret are the salt's. Without a post-task section there is no task and
the reads were the four of the resolution; with one there is one task, the same interpreter and
store with the bytecode the parser answered for the composed post task, and no signed context,
after one more read. -/
theorem Config.addOrder_carries_resolved_order (c : Config) (r : Reader) (s : State) (salt : Salt)
    (log : List Call) (unique : (s.fields.map (·.binding)).Nodup)
    (vaults : ∀ v ∈ c.inputs ++ c.outputs, v.token.decimals < 2 ^ 8 ∧ v.vaultId < 2 ^ 256)
    (call : Calldata) (log' : List Call)
    (made : (c.addOrder r s salt).run.run log = (.ok call, log')) :
    (∀ name, (c.bindingsFor s).get? name =
      (s.fieldValue? name).or (Bindings.get? c.scenarioBindings name)) ∧
    call.target = c.orderbook ∧
    ∃ text interpreter store parser bytecode tasks,
      c.expression.compose (c.bindingsFor s) orderEntrypoints = .ok text ∧
      Points r c.deployer interpreter store parser ∧ Parses r parser text bytecode ∧
      (call.data.length < 2 ^ 256 → decodeAddOrder2? call.data =
        some (⟨⟨interpreter, store, bytecode⟩, c.inputs.map vaultIO, c.outputs.map vaultIO,
          salt.nonce, salt.secret, sourceMeta text⟩, tasks)) ∧
      (c.expression.hasEntrypoint postTaskEntrypoint = false →
        tasks = [] ∧ log' = log ++ delivered r (resolutionCalls c.deployer parser text)) ∧
      (c.expression.hasEntrypoint postTaskEntrypoint = true → ∃ post postBytecode,
        c.expression.compose (c.bindingsFor s) [postTaskEntrypoint] = .ok post ∧
        Parses r parser post postBytecode ∧ tasks = [⟨⟨interpreter, store, postBytecode⟩, []⟩] ∧
        log' = log ++ delivered r (resolutionCalls c.deployer parser text ++
          [stepCall .bytecode parser [.bytes post.toUTF8.toList]])) := by
  refine ⟨c.bindingsFor_get? unique, ?_⟩
  have checked : c.checkMinimums s = .ok () := by
    cases failed : c.checkMinimums s with
    | error e =>
      rw [Config.addOrder_run_of_unchecked log failed] at made
      cases made
    | ok u => rfl
  have built := (Config.addOrder_run_of_checked log checked).symm.trans made
  obtain ⟨text, resolved, composed, points, parses, branch⟩ := Config.buildAddOrder_run_ok built
  rcases branch with ⟨none, rfl, rfl⟩ | ⟨some, post, postBytecode, postComposed, postParses, rfl, rfl⟩
  · refine ⟨rfl, text, resolved.interpreter, resolved.store, resolved.parser, resolved.bytecode, [],
      composed, points, parses, c.decodeAddOrder2?_orderCall vaults salt text resolved [],
      fun _ => ⟨rfl, rfl⟩, fun present => ?_⟩
    rw [none] at present
    cases present
  · refine ⟨rfl, text, resolved.interpreter, resolved.store, resolved.parser, resolved.bytecode,
      [⟨⟨resolved.interpreter, resolved.store, postBytecode⟩, []⟩], composed, points, parses,
      c.decodeAddOrder2?_orderCall vaults salt text resolved [{ resolved with bytecode := postBytecode }],
      fun absent => ?_, fun _ => ⟨post, postBytecode, postComposed, postParses, rfl, rfl⟩⟩
    rw [some] at absent
    cases absent

/-- The input token of `pricedOrder`. -/
def pricedIn : TokenInfo := ⟨"in", ⟨List.replicate 20 0x11, List.length_replicate⟩, 18, none, none⟩

/-- The output token of `pricedOrder`. -/
def pricedOut : TokenInfo := ⟨"out", ⟨List.replicate 20 0x22, List.length_replicate⟩, 6, none, none⟩

/-- An order whose price the body declares as 1, the scenario sets to 2 and a session may set,
with a post task; it is deployed through the zero address. -/
def pricedOrder : Config where
  deployment := "priced"
  name := ""
  description := ""
  guiName := ""
  guiDescription := ""
  fields := [⟨"price", "Price", "", none, []⟩]
  deposits := []
  fieldIndex := ⟨[("price", 0)]⟩
  depositIndex := {}
  tokens := [pricedIn, pricedOut]
  network := ⟨"", "", 0⟩
  orderbook := ⟨List.replicate 20 0x44, List.length_replicate⟩
  deployer := Address.zero
  inputs := [⟨pricedIn, 1⟩]
  outputs := [⟨pricedOut, 2⟩]
  scenarioBindings := [("price", "2")]
  expression := ⟨[⟨"price", .literal "1"⟩, ⟨"calculate-io", .code "_ _: price 0;"⟩,
    ⟨"handle-io", .code ":;"⟩, ⟨"handle-add-order", .code ":;"⟩]⟩
  fingerprint := default
  fieldIndex_indexes := NameIndex.indexes_single "price"
  depositIndex_indexes := NameIndex.indexes_empty

/-- A session that sets the price to 5. -/
def pricedSession : State := { fields := [⟨"price", "5"⟩] }

/-- The parser the deployer of `pricedOrder` points at. -/
def pricedOrderParser : Address := ⟨List.replicate 20 0x55, List.length_replicate⟩

/-- A node whose deployer answers every call with the parser's address and whose parser answers
every text with the bytecode `01`. -/
def pricedOrderNode : Reader where
  answer call :=
    if call.target = Address.zero then .ok (numberWord pricedOrderParser.toNat)
    else .ok (AbiValue.tuple [.bytes [1]]).encode
  delivers := true

/-- The order text of `pricedOrder` with the session's price. -/
def pricedSessionText : String := "/* 0. calculate-io */ \n_ _: 5 0;\n\n/* 1. handle-io */ \n:;"

/-- The post task text of `pricedOrder`. -/
def pricedPostText : String := "/* 0. handle-add-order */ \n:;"

/-- The evaluable `pricedOrderNode` resolves every text of `pricedOrder` to. -/
def pricedResolved : Evaluable := ⟨pricedOrderParser, pricedOrderParser, pricedOrderParser, [1]⟩

theorem pricedOrder_addOrder_run :
    (pricedOrder.addOrder pricedOrderNode pricedSession ⟨default, default⟩).run.run [] =
      (.ok (pricedOrder.orderCall ⟨default, default⟩ pricedSessionText pricedResolved
          [postTask pricedResolved]),
        [] ++ delivered pricedOrderNode
          (resolutionCalls Address.zero pricedOrderParser pricedSessionText ++
            [stepCall .bytecode pricedOrderParser [.bytes pricedPostText.toUTF8.toList]])) := by
  have deployer : ∀ step, stepValue step Address.zero decodeAddressReturn
      (pricedOrderNode.answer (stepCall step Address.zero [])) = .ok pricedOrderParser :=
    fun _ => stepValue_of_decode (by decide)
  have parser : ∀ text : String, stepValue .bytecode pricedOrderParser decodeBytesReturn
      (pricedOrderNode.answer (stepCall .bytecode pricedOrderParser [.bytes text.toUTF8.toList])) =
        .ok [1] := by
    intro text
    simp only [pricedOrderNode, stepCall, if_neg (by decide : pricedOrderParser ≠ Address.zero)]
    exact stepValue_of_decode (by decide)
  have resolved : (resolve pricedOrderNode Address.zero pricedSessionText).run.run [] =
      (.ok pricedResolved, [] ++ delivered pricedOrderNode
        (resolutionCalls Address.zero pricedOrderParser pricedSessionText)) :=
    resolve_run_of_answers (deployer _) (deployer _) (deployer _) (parser _)
  rw [Config.addOrder_run, show pricedOrder.checkMinimums pricedSession = .ok () by decide]
  show (pricedOrder.buildAddOrder pricedOrderNode pricedSession ⟨default, default⟩).run.run [] = _
  rw [Config.buildAddOrder_run,
    show pricedOrder.expression.compose (pricedOrder.bindingsFor pricedSession)
      orderEntrypoints = .ok pricedSessionText by decide]
  dsimp only
  rw [show pricedOrder.deployer = Address.zero from rfl, resolved]
  dsimp only
  rw [if_pos (by decide), show pricedOrder.expression.compose
      (pricedOrder.bindingsFor pricedSession) [postTaskEntrypoint] = .ok pricedPostText by decide]
  dsimp only
  rw [reparse_run, show pricedResolved.parser = pricedOrderParser from rfl, parser]
  simp only [delivered_append, List.append_assoc]
  rfl

/-- Compiling `pricedOrder` for `pricedSession` succeeds after five reads, with the session's
price in the text the parser was asked for, and the compiled order is as described. -/
theorem priced_order_carries_session_price :
    let salt : Salt := ⟨default, default⟩
    let call := pricedOrder.orderCall salt pricedSessionText pricedResolved [postTask pricedResolved]
    let log' := [] ++ delivered pricedOrderNode
      (resolutionCalls Address.zero pricedOrderParser pricedSessionText ++
        [stepCall .bytecode pricedOrderParser [.bytes pricedPostText.toUTF8.toList]])
    (pricedSession.fields.map (·.binding)).Nodup ∧
    (∀ v ∈ pricedOrder.inputs ++ pricedOrder.outputs,
      v.token.decimals < 2 ^ 8 ∧ v.vaultId < 2 ^ 256) ∧
    (pricedOrder.addOrder pricedOrderNode pricedSession salt).run.run [] = (.ok call, log') ∧
    ((∀ name, (pricedOrder.bindingsFor pricedSession).get? name =
      (pricedSession.fieldValue? name).or (Bindings.get? pricedOrder.scenarioBindings name)) ∧
    call.target = pricedOrder.orderbook ∧
    ∃ text interpreter store parser bytecode tasks,
      pricedOrder.expression.compose (pricedOrder.bindingsFor pricedSession) orderEntrypoints =
        .ok text ∧
      Points pricedOrderNode pricedOrder.deployer interpreter store parser ∧
      Parses pricedOrderNode parser text bytecode ∧
      (call.data.length < 2 ^ 256 → decodeAddOrder2? call.data =
        some (⟨⟨interpreter, store, bytecode⟩, pricedOrder.inputs.map vaultIO,
          pricedOrder.outputs.map vaultIO, salt.nonce, salt.secret, sourceMeta text⟩, tasks)) ∧
      (pricedOrder.expression.hasEntrypoint postTaskEntrypoint = false →
        tasks = [] ∧ log' = [] ++ delivered pricedOrderNode
          (resolutionCalls pricedOrder.deployer parser text)) ∧
      (pricedOrder.expression.hasEntrypoint postTaskEntrypoint = true → ∃ post postBytecode,
        pricedOrder.expression.compose (pricedOrder.bindingsFor pricedSession)
          [postTaskEntrypoint] = .ok post ∧
        Parses pricedOrderNode parser post postBytecode ∧
        tasks = [⟨⟨interpreter, store, postBytecode⟩, []⟩] ∧
        log' = [] ++ delivered pricedOrderNode (resolutionCalls pricedOrder.deployer parser text ++
          [stepCall .bytecode parser [.bytes post.toUTF8.toList]]))) := by
  intro salt call log'
  have nodup : (pricedSession.fields.map (·.binding)).Nodup := by decide
  have bounded : ∀ v ∈ pricedOrder.inputs ++ pricedOrder.outputs,
      v.token.decimals < 2 ^ 8 ∧ v.vaultId < 2 ^ 256 := by decide
  have run : (pricedOrder.addOrder pricedOrderNode pricedSession salt).run.run [] = (.ok call, log') :=
    pricedOrder_addOrder_run
  exact ⟨nodup, bounded, run, Config.addOrder_carries_resolved_order pricedOrder pricedOrderNode
    pricedSession salt [] nodup bounded call log' run⟩

/-- Bundled with `pricedSession`, which holds no deposits, the order is the one call of the
multicall, sent to the orderbook after the order's five reads; with a deposit of a token the
deployment does not offer, the multicall fails before any read. -/
theorem priced_multicall_bundles_order :
    let salt : Salt := ⟨default, default⟩
    let order := pricedOrder.orderCall salt pricedSessionText pricedResolved [postTask pricedResolved]
    let log' := [] ++ delivered pricedOrderNode
      (resolutionCalls Address.zero pricedOrderParser pricedSessionText ++
        [stepCall .bytecode pricedOrderParser [.bytes pricedPostText.toUTF8.toList]])
    (∃ m, (pricedOrder.multicall pricedOrderNode pricedSession salt).run.run [] = (.ok m, log') ∧
      m.target = pricedOrder.orderbook ∧
      (m.data.length < 2 ^ 256 →
        decodeAggregate3? m.data = some [⟨pricedOrder.orderbook, false, order.data⟩])) ∧
    (pricedOrder.multicall pricedOrderNode { pricedSession with deposits := [⟨"t", Address.zero, "1"⟩] }
      salt).run.run [] = (.error (.binding (.unknownDepositToken "t")), []) := by
  intro salt order log'
  have run := pricedOrder_addOrder_run
  have none : pricedOrder.depositCalls pricedSession = .ok [] := rfl
  have unknown : pricedOrder.depositCalls { pricedSession with deposits := [⟨"t", Address.zero, "1"⟩] } =
      .error (.binding (.unknownDepositToken "t")) := rfl
  obtain ⟨bundled, described, -, orderFirst⟩ :=
    Config.multicall_bundles_deposits_then_order pricedOrder pricedOrderNode pricedSession salt []
  obtain ⟨m, made⟩ := bundled.mpr ⟨⟨[], none⟩, ⟨order, by rw [run]⟩⟩
  have reads := (orderFirst [] none).1
  rw [run] at reads
  obtain ⟨target, ds, o, hds, ho, -, decoded⟩ := described m made
  rw [none] at hds
  rw [run] at ho
  cases hds
  cases ho
  refine ⟨⟨m, Prod.ext made reads, target, decoded⟩, ?_⟩
  exact (Config.multicall_bundles_deposits_then_order pricedOrder pricedOrderNode
    { pricedSession with deposits := [⟨"t", Address.zero, "1"⟩] } salt []).2.2.1 _ unknown

end StrategyDeploy.Deployment

import StrategyDeploy.Calldata.Compile
import StrategyDeploy.Proofs.Except

/-! Compilations that read. -/
namespace StrategyDeploy.Calldata

open StrategyDeploy.Reader StrategyDeploy.Evm StrategyDeploy.Expression StrategyDeploy.Meta

/-- The calls of a list that reach the other side through a reader. -/
def delivered (r : Reader) (calls : List Call) : List Call :=
  if r.delivers then calls else []

/-- The call a resolution step makes. -/
def stepCall (step : ResolveStep) (target : Address) (args : List AbiValue) : Call :=
  ⟨target, callData (selector step.signature) args⟩

/-- What a resolution step makes of its answer: the decoded value, or its failure. -/
def stepValue {α : Type} (step : ResolveStep) (target : Address) (decode : List UInt8 → Option α) :
    Except RpcError (List UInt8) → Except CalldataError α
  | .error e => .error (.resolution step target e)
  | .ok data =>
    match decode data with
    | some v => .ok v
    | none => .error (.resolution step target (.decode (.abi data)))

/-- The calls that resolve a text against a deployer whose parser is `parser`. -/
def resolutionCalls (deployer parser : Address) (text : String) : List Call :=
  [stepCall .interpreter deployer [], stepCall .store deployer [], stepCall .parser deployer [],
    stepCall .bytecode parser [.bytes text.toUTF8.toList]]

variable {α β : Type}

theorem delivered_append (r : Reader) (a b : List Call) :
    delivered r (a ++ b) = delivered r a ++ delivered r b := by
  unfold delivered
  split <;> simp

theorem Compile.run_bind (x : Compile α) (f : α → Compile β) (log : List Call) :
    (x >>= f).run.run log = match x.run.run log with
      | (.ok a, log') => (f a).run.run log'
      | (.error e, log') => (.error e, log') := by
  simp only [ExceptT.run_bind, StateT.run_bind]
  rcases x.run.run log with ⟨_ | a, log'⟩ <;> rfl

theorem Compile.run_lift (x : Except CalldataError α) (log : List Call) :
    (lift x).run.run log = (x, log) := by
  cases x <;> rfl

theorem call_run (r : Reader) (c : Call) (log : List Call) :
    (Reader.call r c).run log = (r.answer c, log ++ delivered r [c]) := by
  unfold Reader.call delivered
  cases r.delivers
  · simp
    rfl
  · rfl

theorem Compile.run_liftM_bind {γ : Type} (m : Reads γ) (f : γ → Compile β) (log : List Call) :
    (liftM m >>= f : Compile β).run.run log = (f (m.run log).1).run.run (m.run log).2 := by
  simp only [ExceptT.run_bind, liftM, monadLift, MonadLift.monadLift, ExceptT.run_lift,
    StateT.run_bind, StateT.run_map]
  rfl

theorem Compile.run_call_bind (r : Reader) (c : Call) (f : Except RpcError (List UInt8) → Compile β)
    (log : List Call) :
    (liftM (r.call c) >>= f : Compile β).run.run log =
      (f (r.answer c)).run.run (log ++ delivered r [c]) := by
  rw [Compile.run_liftM_bind, call_run]

theorem composed_run (x : Except ComposeError String) (log : List Call) :
    (composed x).run.run log = (x.mapError .compose, log) := by
  cases x <;> rfl

theorem stepValue_of_decode {step : ResolveStep} {target : Address}
    {decode : List UInt8 → Option α} {data : List UInt8} {v : α} (h : decode data = some v) :
    stepValue step target decode (.ok data) = .ok v := by
  simp only [stepValue, h]

theorem stepValue_error {step : ResolveStep} {target : Address} {decode : List UInt8 → Option α}
    {answer : Except RpcError (List UInt8)} {e : CalldataError}
    (h : stepValue step target decode answer = .error e) :
    ∃ source, e = .resolution step target source := by
  cases answer with
  | error source => cases h; exact ⟨source, rfl⟩
  | ok data =>
    simp only [stepValue] at h
    cases hd : decode data with
    | none => rw [hd] at h; cases h; exact ⟨_, rfl⟩
    | some v => rw [hd] at h; cases h

section Pipeline

variable {r : Reader} {deployer : Address} {state : PipelineState} {log : List Call}

theorem ResolveStep.perform_run_of_request {step : ResolveStep} {call : Call}
    (requested : step.request state deployer = .ok call) {decode : List UInt8 → Option α}
    {fill : α → PipelineState}
    (applied : ∀ data, step.apply state data =
      match decode data with
      | some v => .ok (fill v)
      | none => .error (.decode (.abi data))) :
    (step.perform r deployer state).run.run log =
      (fill <$> stepValue step call.target decode (r.answer call), log ++ delivered r [call]) := by
  unfold ResolveStep.perform
  rw [Compile.run_bind, Compile.run_lift, requested]
  dsimp only
  rw [Compile.run_call_bind]
  cases r.answer call with
  | error e => rfl
  | ok data =>
    rw [Except.ok_bind, applied]
    simp only [stepValue]
    cases decode data <;> rfl

/-- The state with the address a step that reads the deployer returns in that step's slot. -/
def ResolveStep.fillAddress : ResolveStep → PipelineState → Address → PipelineState
  | .interpreter, state, a => { state with interpreter := some a }
  | .store, state, a => { state with store := some a }
  | .parser, state, a => { state with parser := some a }
  | .bytecode, state, _ => state

theorem ResolveStep.deployer_perform_run {step : ResolveStep} (reads : step ≠ .bytecode) :
    (step.perform r deployer state).run.run log =
      (step.fillAddress state <$> stepValue step deployer decodeAddressReturn
          (r.answer (stepCall step deployer [])),
        log ++ delivered r [stepCall step deployer []]) := by
  cases step
  case bytecode => exact absurd rfl reads
  all_goals
    exact ResolveStep.perform_run_of_request rfl fun data => by
      cases h : decodeAddressReturn data <;> simp [ResolveStep.apply, h, ResolveStep.fillAddress]

theorem ResolveStep.bytecode_perform_run (state : PipelineState) :
    (ResolveStep.bytecode.perform r deployer state).run.run log =
      match state.parser with
      | none => (.error (.stepOutOfOrder .bytecode), log)
      | some address =>
        ((fun b => { state with bytecode := some b }) <$> stepValue .bytecode address
            decodeBytesReturn (r.answer (stepCall .bytecode address [.bytes state.text])),
          log ++ delivered r [stepCall .bytecode address [.bytes state.text]]) := by
  cases known : state.parser with
  | none =>
    unfold ResolveStep.perform
    rw [Compile.run_bind, Compile.run_lift]
    simp only [ResolveStep.request, known]
  | some address =>
    refine ResolveStep.perform_run_of_request ?_ fun data => ?_
    · simp [ResolveStep.request, known, stepCall]
    · cases h : decodeBytesReturn data <;> simp [ResolveStep.apply, h, known]

theorem runSteps_cons (step : ResolveStep) (steps : List ResolveStep) :
    runSteps r deployer state (step :: steps) =
      step.perform r deployer state >>= fun state' => runSteps r deployer state' steps :=
  rfl

theorem runSteps_nil : runSteps r deployer state [] = pure state := rfl

end Pipeline

section Resolve

variable {r : Reader} {deployer : Address} {text : String} {log log' : List Call}

theorem resolve_run (r : Reader) (deployer : Address) (text : String) (log : List Call) :
    (resolve r deployer text).run.run log =
      match stepValue .interpreter deployer decodeAddressReturn
          (r.answer (stepCall .interpreter deployer [])) with
      | .error e => (.error e, log ++ delivered r [stepCall .interpreter deployer []])
      | .ok interpreter =>
        match stepValue .store deployer decodeAddressReturn
            (r.answer (stepCall .store deployer [])) with
        | .error e => (.error e, log ++ delivered r
            [stepCall .interpreter deployer [], stepCall .store deployer []])
        | .ok store =>
          match stepValue .parser deployer decodeAddressReturn
              (r.answer (stepCall .parser deployer [])) with
          | .error e => (.error e, log ++ delivered r
              [stepCall .interpreter deployer [], stepCall .store deployer [],
                stepCall .parser deployer []])
          | .ok parser =>
            match stepValue .bytecode parser decodeBytesReturn
                (r.answer (stepCall .bytecode parser [.bytes text.toUTF8.toList])) with
            | .error e => (.error e, log ++ delivered r (resolutionCalls deployer parser text))
            | .ok bytecode => (.ok ⟨interpreter, store, parser, bytecode⟩,
                log ++ delivered r (resolutionCalls deployer parser text)) := by
  simp only [resolve, runSteps_cons, runSteps_nil, ResolveStep.all, Compile.run_bind,
    ResolveStep.deployer_perform_run (by decide : ResolveStep.interpreter ≠ .bytecode)]
  -- one case split per step; each decoded answer fills the slot the next step reads
  cases stepValue .interpreter deployer decodeAddressReturn
      (r.answer (stepCall .interpreter deployer [])) with
  | error e => rfl
  | ok interpreter =>
    simp only [Functor.map, Except.map, ResolveStep.fillAddress,
      ResolveStep.deployer_perform_run (by decide : ResolveStep.store ≠ .bytecode)]
    cases stepValue .store deployer decodeAddressReturn (r.answer (stepCall .store deployer [])) with
    | error e => by_cases d : r.delivers <;> simp [delivered, d]
    | ok store =>
      simp only [Functor.map, Except.map, ResolveStep.fillAddress,
        ResolveStep.deployer_perform_run (by decide : ResolveStep.parser ≠ .bytecode)]
      cases stepValue .parser deployer decodeAddressReturn
          (r.answer (stepCall .parser deployer [])) with
      | error e => by_cases d : r.delivers <;> simp [delivered, d]
      | ok parser =>
        simp only [Functor.map, Except.map, ResolveStep.bytecode_perform_run]
        cases stepValue .bytecode parser decodeBytesReturn
            (r.answer (stepCall .bytecode parser [.bytes text.toUTF8.toList])) with
        | error e => by_cases d : r.delivers <;> simp [delivered, d, resolutionCalls]
        | ok bytecode =>
          by_cases d : r.delivers <;> simp [delivered, d, resolutionCalls] <;> rfl

theorem resolve_run_of_answers {interpreter store parser : Address} {bytecode : List UInt8}
    (hi : stepValue .interpreter deployer decodeAddressReturn
      (r.answer (stepCall .interpreter deployer [])) = .ok interpreter)
    (hs : stepValue .store deployer decodeAddressReturn
      (r.answer (stepCall .store deployer [])) = .ok store)
    (hp : stepValue .parser deployer decodeAddressReturn
      (r.answer (stepCall .parser deployer [])) = .ok parser)
    (hb : stepValue .bytecode parser decodeBytesReturn
      (r.answer (stepCall .bytecode parser [.bytes text.toUTF8.toList])) = .ok bytecode) :
    (resolve r deployer text).run.run log =
      (.ok ⟨interpreter, store, parser, bytecode⟩,
        log ++ delivered r (resolutionCalls deployer parser text)) := by
  rw [resolve_run, hi]
  dsimp only
  rw [hs]
  dsimp only
  rw [hp]
  dsimp only
  rw [hb]

theorem resolve_run_ok_iff {ev : Evaluable} :
    (resolve r deployer text).run.run log = (.ok ev, log') ↔
      stepValue .interpreter deployer decodeAddressReturn
          (r.answer (stepCall .interpreter deployer [])) = .ok ev.interpreter ∧
        stepValue .store deployer decodeAddressReturn
          (r.answer (stepCall .store deployer [])) = .ok ev.store ∧
        stepValue .parser deployer decodeAddressReturn
          (r.answer (stepCall .parser deployer [])) = .ok ev.parser ∧
        stepValue .bytecode ev.parser decodeBytesReturn
          (r.answer (stepCall .bytecode ev.parser [.bytes text.toUTF8.toList])) =
            .ok ev.bytecode ∧
        log' = log ++ delivered r (resolutionCalls deployer ev.parser text) := by
  constructor
  · intro h
    rw [resolve_run] at h
    cases hi : stepValue .interpreter deployer decodeAddressReturn
        (r.answer (stepCall .interpreter deployer [])) with
    | error e => simp only [hi] at h; cases h
    | ok i =>
      cases hs : stepValue .store deployer decodeAddressReturn
          (r.answer (stepCall .store deployer [])) with
      | error e => simp only [hi, hs] at h; cases h
      | ok st =>
        cases hp : stepValue .parser deployer decodeAddressReturn
            (r.answer (stepCall .parser deployer [])) with
        | error e => simp only [hi, hs, hp] at h; cases h
        | ok p =>
          cases hb : stepValue .bytecode p decodeBytesReturn
              (r.answer (stepCall .bytecode p [.bytes text.toUTF8.toList])) with
          | error e => simp only [hi, hs, hp, hb] at h; cases h
          | ok b =>
            simp only [hi, hs, hp, hb] at h
            cases h
            exact ⟨rfl, rfl, rfl, hb, rfl⟩
  · rintro ⟨hi, hs, hp, hb, rfl⟩
    exact resolve_run_of_answers hi hs hp hb

theorem resolve_run_error {e : CalldataError} (h : (resolve r deployer text).run.run log = (.error e, log')) :
    ∃ step target source, e = .resolution step target source := by
  rw [resolve_run] at h
  cases hi : stepValue .interpreter deployer decodeAddressReturn
      (r.answer (stepCall .interpreter deployer [])) with
  | error e' => simp only [hi] at h; cases h; exact ⟨_, _, stepValue_error hi⟩
  | ok i =>
    cases hs : stepValue .store deployer decodeAddressReturn
        (r.answer (stepCall .store deployer [])) with
    | error e' => simp only [hi, hs] at h; cases h; exact ⟨_, _, stepValue_error hs⟩
    | ok st =>
      cases hp : stepValue .parser deployer decodeAddressReturn
          (r.answer (stepCall .parser deployer [])) with
      | error e' => simp only [hi, hs, hp] at h; cases h; exact ⟨_, _, stepValue_error hp⟩
      | ok p =>
        cases hb : stepValue .bytecode p decodeBytesReturn
            (r.answer (stepCall .bytecode p [.bytes text.toUTF8.toList])) with
        | error e' => simp only [hi, hs, hp, hb] at h; cases h; exact ⟨_, _, stepValue_error hb⟩
        | ok b => simp only [hi, hs, hp, hb] at h; cases h

theorem reparse_run (resolved : Evaluable) (post : String) :
    (reparse r deployer resolved post).run.run log =
      (({ resolved with bytecode := · }) <$> stepValue .bytecode resolved.parser decodeBytesReturn
          (r.answer (stepCall .bytecode resolved.parser [.bytes post.toUTF8.toList])),
        log ++ delivered r [stepCall .bytecode resolved.parser [.bytes post.toUTF8.toList]]) := by
  simp only [reparse, runSteps_cons, runSteps_nil, Compile.run_bind,
    ResolveStep.bytecode_perform_run, Evaluable.toState]
  cases stepValue .bytecode resolved.parser decodeBytesReturn
      (r.answer (stepCall .bytecode resolved.parser [.bytes post.toUTF8.toList])) <;> rfl

theorem reparse_run_error {resolved : Evaluable} {post : String} {e : CalldataError}
    (h : (reparse r deployer resolved post).run.run log = (.error e, log')) :
    ∃ target source, e = .resolution .bytecode target source := by
  rw [reparse_run] at h
  cases hb : stepValue .bytecode resolved.parser decodeBytesReturn
      (r.answer (stepCall .bytecode resolved.parser [.bytes post.toUTF8.toList])) with
  | error e' => rw [hb] at h; cases h; exact ⟨_, stepValue_error hb⟩
  | ok b => rw [hb] at h; cases h

/-- Resolution against a deployer makes its reads in step order: the deployer's interpreter,
store and parser, then the `parse2` of the text at the parser the third answer names. The first
read that fails or does not decode ends it with that step's resolution error, naming the contract
read, and no later read is made; with all four decoded it returns them. Reparsing makes the one
`parse2` read at the resolved parser and replaces only the bytecode. Whatever the reader answers,
neither ends with a step out of order. -/
theorem resolution_reads_in_step_order (r : Reader) (deployer : Address) (text : String)
    (resolved : Evaluable) (post : String) (log : List Call) :
    (resolve r deployer text).run.run log =
      (match stepValue .interpreter deployer decodeAddressReturn
          (r.answer (stepCall .interpreter deployer [])) with
      | .error e => (.error e, log ++ delivered r [stepCall .interpreter deployer []])
      | .ok interpreter =>
        match stepValue .store deployer decodeAddressReturn
            (r.answer (stepCall .store deployer [])) with
        | .error e => (.error e, log ++ delivered r
            [stepCall .interpreter deployer [], stepCall .store deployer []])
        | .ok store =>
          match stepValue .parser deployer decodeAddressReturn
              (r.answer (stepCall .parser deployer [])) with
          | .error e => (.error e, log ++ delivered r
              [stepCall .interpreter deployer [], stepCall .store deployer [],
                stepCall .parser deployer []])
          | .ok parser =>
            match stepValue .bytecode parser decodeBytesReturn
                (r.answer (stepCall .bytecode parser [.bytes text.toUTF8.toList])) with
            | .error e => (.error e, log ++ delivered r (resolutionCalls deployer parser text))
            | .ok bytecode => (.ok ⟨interpreter, store, parser, bytecode⟩,
                log ++ delivered r (resolutionCalls deployer parser text))) ∧
    (reparse r deployer resolved post).run.run log =
      (({ resolved with bytecode := · }) <$> stepValue .bytecode resolved.parser decodeBytesReturn
          (r.answer (stepCall .bytecode resolved.parser [.bytes post.toUTF8.toList])),
        log ++ delivered r [stepCall .bytecode resolved.parser [.bytes post.toUTF8.toList]]) ∧
    (∀ step log', (resolve r deployer text).run.run log ≠ (.error (.stepOutOfOrder step), log')) ∧
    (∀ step log', (reparse r deployer resolved post).run.run log ≠
      (.error (.stepOutOfOrder step), log')) := by
  refine ⟨resolve_run r deployer text log, reparse_run resolved post, ?_, ?_⟩
  · intro step log' out
    obtain ⟨_, _, _, named⟩ := resolve_run_error out
    cases named
  · intro step log' out
    obtain ⟨_, _, named⟩ := reparse_run_error out
    cases named

end Resolve

end StrategyDeploy.Calldata

namespace StrategyDeploy.Deployment

open StrategyDeploy.Calldata StrategyDeploy.Reader StrategyDeploy.Evm StrategyDeploy.Expression
open StrategyDeploy.Meta StrategyDeploy.Session

/-- The order-adding call for a resolved evaluable, the text it was resolved from and the post
tasks. -/
def Config.orderCall (c : Config) (salt : Salt) (text : String) (resolved : Evaluable)
    (tasks : List AbiValue) : Calldata :=
  ⟨c.orderbook, s!"add order {c.deployment}", callData (selector addOrderSignature)
    [.tuple [resolved.toAbi, .array (c.inputs.map vaultAbi), .array (c.outputs.map vaultAbi),
      .word salt.nonce, .word salt.secret, .bytes (sourceMeta text)], .array tasks]⟩

/-- The post task of a reparsed evaluable: the evaluable and no signed context. -/
def postTask (task : Evaluable) : AbiValue := .tuple [task.toAbi, .array []]

theorem Config.buildAddOrder_run (c : Config) (r : Reader) (s : State) (salt : Salt)
    (log : List Call) :
    (c.buildAddOrder r s salt).run.run log =
      match c.expression.compose (c.bindingsFor s) orderEntrypoints with
      | .error e => (.error (.compose e), log)
      | .ok text =>
        match (resolve r c.deployer text).run.run log with
        | (.error e, log') => (.error e, log')
        | (.ok resolved, log') =>
          if c.expression.hasEntrypoint postTaskEntrypoint then
            match c.expression.compose (c.bindingsFor s) [postTaskEntrypoint] with
            | .error e => (.error (.compose e), log')
            | .ok post =>
              match (reparse r c.deployer resolved post).run.run log' with
              | (.error e, log'') => (.error e, log'')
              | (.ok task, log'') => (.ok (c.orderCall salt text resolved [postTask task]), log'')
          else (.ok (c.orderCall salt text resolved []), log') := by
  unfold Config.buildAddOrder
  simp only [Compile.run_bind, composed_run]
  cases c.expression.compose (c.bindingsFor s) orderEntrypoints with
  | error e => rfl
  | ok text =>
    simp only [Except.mapError]
    generalize (resolve r c.deployer text).run.run log = resolution
    obtain ⟨_ | resolved, log'⟩ := resolution
    · rfl
    · by_cases post : c.expression.hasEntrypoint postTaskEntrypoint
      · simp only [post, if_true, Compile.run_bind, composed_run]
        cases c.expression.compose (c.bindingsFor s) [postTaskEntrypoint] with
        | error e => rfl
        | ok text' =>
          simp only [Except.mapError]
          generalize (reparse r c.deployer resolved text').run.run log' = reparsed
          obtain ⟨_ | task, log''⟩ := reparsed <;> rfl
      · simp only [post, Bool.false_eq_true, if_false]
        rfl

end StrategyDeploy.Deployment

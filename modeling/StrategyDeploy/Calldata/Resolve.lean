import StrategyDeploy.Calldata.Basic

/-! Resolving an expression into an evaluable through four contract reads. -/
namespace StrategyDeploy.Calldata

open StrategyDeploy.Evm StrategyDeploy.Reader

/-- A resolved evaluable. -/
structure Evaluable where
  interpreter : Address
  store : Address
  parser : Address
  bytecode : List UInt8
  deriving Repr

/-- What resolution has learnt so far about an expression text. -/
structure PipelineState where
  text : List UInt8
  interpreter : Option Address := none
  store : Option Address := none
  parser : Option Address := none
  bytecode : Option (List UInt8) := none
  deriving Repr

def ResolveStep.all : List ResolveStep := [.interpreter, .store, .parser, .bytecode]

def ResolveStep.signature : ResolveStep → String
  | .interpreter => "iInterpreter()"
  | .store => "iStore()"
  | .parser => "iParser()"
  | .bytecode => "parse2(bytes)"

/-- The read a step makes, given what is known so far: one of the deployer's three getters, or
the parser's `parse2` of the text, which needs the parser. -/
def ResolveStep.request (step : ResolveStep) (state : PipelineState) (deployer : Address) :
    Except CalldataError Call :=
  match step with
  | .interpreter => .ok ⟨deployer, callData (selector ResolveStep.interpreter.signature) []⟩
  | .store => .ok ⟨deployer, callData (selector ResolveStep.store.signature) []⟩
  | .parser => .ok ⟨deployer, callData (selector ResolveStep.parser.signature) []⟩
  | .bytecode =>
    match state.parser with
    | some address =>
      .ok ⟨address, callData (selector ResolveStep.bytecode.signature) [.bytes state.text]⟩
    | none => .error (.stepOutOfOrder .bytecode)

/-- Folds a step's return into the state; the return must decode as the step's result. -/
def ResolveStep.apply (step : ResolveStep) (state : PipelineState) (returned : List UInt8) :
    Except RpcError PipelineState :=
  match step with
  | .interpreter =>
    match decodeAddressReturn returned with
    | some a => .ok { state with interpreter := some a }
    | none => .error (.decode (.abi returned))
  | .store =>
    match decodeAddressReturn returned with
    | some a => .ok { state with store := some a }
    | none => .error (.decode (.abi returned))
  | .parser =>
    match decodeAddressReturn returned with
    | some a => .ok { state with parser := some a }
    | none => .error (.decode (.abi returned))
  | .bytecode =>
    match decodeBytesReturn returned with
    | some b => .ok { state with bytecode := some b }
    | none => .error (.decode (.abi returned))

/-- Runs one step: asks for its read, makes it and folds the return into the state. -/
def ResolveStep.perform (step : ResolveStep) (r : Reader) (deployer : Address)
    (state : PipelineState) : Compile PipelineState := do
  let call ← lift (step.request state deployer)
  let answer ← liftM (r.call call)
  match answer >>= step.apply state with
  | .ok state => return state
  | .error e => throw (.resolution step call.target e)

def runSteps (r : Reader) (deployer : Address) (state : PipelineState) (steps : List ResolveStep) :
    Compile PipelineState :=
  steps.foldlM (fun state step => step.perform r deployer state) state

def Evaluable.ofState (state : PipelineState) : Except CalldataError Evaluable := do
  let some interpreter := state.interpreter | throw (.stepOutOfOrder .interpreter)
  let some store := state.store | throw (.stepOutOfOrder .store)
  let some parser := state.parser | throw (.stepOutOfOrder .parser)
  let some bytecode := state.bytecode | throw (.stepOutOfOrder .bytecode)
  return ⟨interpreter, store, parser, bytecode⟩

def Evaluable.toState (e : Evaluable) (text : String) : PipelineState :=
  { text := text.toUTF8.toList, interpreter := some e.interpreter, store := some e.store,
    parser := some e.parser }

/-- Resolves an expression text against a deployer. -/
def resolve (r : Reader) (deployer : Address) (text : String) : Compile Evaluable := do
  let state ← runSteps r deployer { text := text.toUTF8.toList } ResolveStep.all
  lift (Evaluable.ofState state)

/-- Parses another expression text with the addresses already resolved. -/
def reparse (r : Reader) (deployer : Address) (resolved : Evaluable) (text : String) :
    Compile Evaluable := do
  let state ← runSteps r deployer (resolved.toState text) [.bytecode]
  lift (Evaluable.ofState state)

end StrategyDeploy.Calldata

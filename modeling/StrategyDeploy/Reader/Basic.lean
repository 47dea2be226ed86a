import StrategyDeploy.Evm.Address

/-! Contract reads. -/
namespace StrategyDeploy.Reader

open StrategyDeploy.Evm StrategyDeploy.Bytes

/-- A call: the contract and the call data. -/
structure Call where
  target : Address
  data : List UInt8
  deriving Repr, DecidableEq

def Call.selector? (c : Call) : Option (List UInt8) :=
  if 4 ≤ c.data.length then some (c.data.take 4) else none

/-- A JSON-RPC request for a call against the latest block. -/
structure Request where
  id : Nat
  call : Call
  deriving Repr, DecidableEq

def Request.version : String := "2.0"

def Request.method : String := "eth_call"

def Request.block : String := "latest"

def requestsOf (calls : List Call) : List Request :=
  calls.zipIdx.map fun (c, i) => ⟨i + 1, c⟩

/-- What refused an answer as undecodable. -/
inductive DecodeCause where
  | abi (returned : List UInt8)
  | reported (text : String)
  deriving Repr, DecidableEq

/-- Why a read failed. -/
inductive RpcError where
  | httpClient (message : String)
  | transport (message : String)
  | status (code : Nat) (body : String)
  | jsonRpc (code : Int) (message : String)
  | missingResult
  | decode (cause : DecodeCause)
  deriving Repr, DecidableEq

/-- The report of a read failure. The ABI decoder words its own refusals, so `abiReport` gives
its account of the bytes it refused. -/
def RpcError.message (abiReport : List UInt8 → String) : RpcError → String
  | .httpClient m => s!"HTTP client error: {m}"
  | .transport m => s!"Transport error: {m}"
  | .status code body => s!"HTTP {code}: {body}"
  | .jsonRpc code m => s!"JSON-RPC error {code}: {m}"
  | .missingResult => "Response has no result"
  | .decode (.abi returned) => s!"Failed to decode response: {abiReport returned}"
  | .decode (.reported text) => s!"Failed to decode response: {text}"

end StrategyDeploy.Reader

namespace StrategyDeploy

/-- What answers reads. -/
structure Reader where
  answer : Reader.Call → Except Reader.RpcError (List UInt8)
  delivers : Bool
  atOnce : Bool := true
  arrival : Reader.Call → Nat := fun _ => 0

end StrategyDeploy

namespace StrategyDeploy.Reader

open StrategyDeploy.Evm StrategyDeploy.Bytes

/-- A computation that reads, keeping the calls that were delivered. -/
abbrev Reads := StateM (List Call)

def call (r : Reader) (c : Call) : Reads (Except RpcError (List UInt8)) := do
  if r.delivers then modify (· ++ [c])
  return r.answer c

/-- Makes calls together: all of them go out, in order, and each gets its own answer. -/
def callTogether (r : Reader) (calls : List Call) : Reads (List (Except RpcError (List UInt8))) := do
  if r.delivers then modify (· ++ calls)
  return calls.map r.answer

/-- A JSON-RPC endpoint that cannot be reached: every call fails before it is sent. -/
def unreachable : Reader where
  answer _ := .error (.transport "HTTP request failed")
  delivers := false
  atOnce := false

end StrategyDeploy.Reader

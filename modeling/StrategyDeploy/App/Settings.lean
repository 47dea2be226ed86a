import StrategyDeploy.Toml.Parse
import StrategyDeploy.Toml.Shape

/-! Settings of the command line, read from a TOML file in which every key may be left out. -/
namespace StrategyDeploy.App

open StrategyDeploy.Toml

/-- The settings of a run. -/
structure Settings where
  rpcUrl : Option String := none
  requestTimeoutMs : Nat := 10000
  printMetrics : Bool := false
  deriving Repr, DecidableEq

/-- Reads settings from TOML text. -/
def Settings.parse? (text : String) : Option Settings := do
  let r ← (← Toml.parse? text).asRecord?
  let rpcUrl ← r.optional 0 "rpc_url" Value.asString?
  let requestTimeoutMs ← r.withDefault 1 "request_timeout_ms" 10000 Value.asU64?
  let printMetrics ← r.withDefault 2 "print_metrics" false Value.asBool?
  return ⟨rpcUrl, requestTimeoutMs, printMetrics⟩

end StrategyDeploy.App

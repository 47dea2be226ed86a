import StrategyDeploy.Deployment.Load
import StrategyDeploy.Session.Blob
import StrategyDeploy.Calldata.Basic

/-! Why a run of the application failed, and how it is reported. -/
namespace StrategyDeploy.App

open StrategyDeploy.Deployment StrategyDeploy.Session StrategyDeploy.Calldata

/-- What went wrong with the settings file. -/
inductive SettingsFault where
  | unreadable
  | malformed
  deriving Repr, DecidableEq

/-- Why a run failed. -/
inductive AppError where
  | settings (fault : SettingsFault)
  | deployment (e : ConfigError)
  | state (e : BindingError)
  | codec (e : CodecError)
  | calldata (e : CalldataError)
  deriving Repr

/-- The report of a run's failure, with the TOML reader's and the ABI decoder's accounts of
what they refused given by `tomlReport` and `abiReport`. -/
def AppError.message (tomlReport : String → String) (abiReport : List UInt8 → String) :
    AppError → String
  | .settings .unreadable => "Configuration error: Failed to read config"
  | .settings .malformed => "Configuration error: Failed to parse config"
  | .deployment e => "Deployment error: " ++ e.message tomlReport
  | .state e => "State error: " ++ e.message
  | .codec e => "State blob error: " ++ e.message
  | .calldata e => "Calldata error: " ++ e.message abiReport

end StrategyDeploy.App

/-! TOML values as the front matter's readers see them. -/
namespace StrategyDeploy.Toml

/-- A TOML value. -/
inductive Value where
  | string (s : String)
  | integer (i : Int)
  | float
  | boolean (b : Bool)
  | datetime
  | array (items : List Value)
  | table (entries : List (String × Value))
  deriving Repr, Inhabited

def Value.get? : Value → String → Option Value
  | .table entries, key => (entries.find? (·.1 == key)).map (·.2)
  | _, _ => none

end StrategyDeploy.Toml

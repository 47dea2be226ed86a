import StrategyDeploy.Toml.Value

/-! Reading typed data out of TOML values. -/
namespace StrategyDeploy.Toml

def Value.asString? : Value → Option String
  | .string s => some s
  | _ => none

def Value.asBool? : Value → Option Bool
  | .boolean b => some b
  | _ => none

def Value.asNatBelow? (bound : Nat) : Value → Option Nat
  | .integer i => if 0 ≤ i ∧ i.toNat < bound then some i.toNat else none
  | _ => none

def Value.asU64? : Value → Option Nat := Value.asNatBelow? (Nat.pow 2 64)

def Value.asByte? : Value → Option Nat := Value.asNatBelow? 256

def Value.asLiteral? (v : Value) : Option String :=
  match v.asU64? with
  | some n => some (toString n)
  | none => v.asString?

def Value.asList? {α : Type} (item : Value → Option α) : Value → Option (List α)
  | .array items => items.mapM item
  | _ => none

def sortByKey {α : Type} (entries : List (String × α)) : List (String × α) :=
  entries.mergeSort fun a b => decide (a.1 ≤ b.1)

/-- A map from text keys, every value read by `entry`, sorted by key. -/
def Value.asMap? {α : Type} (entry : Value → Option α) : Value → Option (List (String × α))
  | .table entries =>
    (entries.mapM fun (kv : String × Value) => (entry kv.2).map (kv.1, ·)).map sortByKey
  | _ => none

/-- Where a record's fields are read from. -/
inductive Record where
  | keyed (entries : List (String × Value))
  | positional (items : List Value)

def Value.asRecord? : Value → Option Record
  | .table entries => some (.keyed entries)
  | .array items => some (.positional items)
  | _ => none

def Record.field? (r : Record) (index : Nat) (name : String) : Option Value :=
  match r with
  | .keyed entries => (entries.find? (·.1 == name)).map (·.2)
  | .positional items => items[index]?

def Record.required {α : Type} (r : Record) (index : Nat) (name : String)
    (read : Value → Option α) : Option α :=
  (r.field? index name).bind read

def Record.optional {α : Type} (r : Record) (index : Nat) (name : String)
    (read : Value → Option α) : Option (Option α) :=
  match r.field? index name, r with
  | some v, _ => (read v).map some
  | none, .keyed _ => some none
  | none, .positional _ => none

def Record.withDefault {α : Type} (r : Record) (index : Nat) (name : String) (fallback : α)
    (read : Value → Option α) : Option α :=
  match r.field? index name with
  | some v => read v
  | none => some fallback

end StrategyDeploy.Toml
